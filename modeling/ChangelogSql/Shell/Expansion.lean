import ChangelogSql.Shell.Arithmetic
import ChangelogSql.Shell.Field
import ChangelogSql.Shell.State

/-!
From words to fragments: parts are replaced by what they stand for.
-/

namespace ChangelogSql.Shell.Expansion

open Text (ascii)
open Files Kernel

/-- Where a tilde can stand for a directory. -/
inductive Tilde where
  | nowhere
  | infront
  /-- In front, and behind every colon. -/
  | listed
  deriving DecidableEq

/-- What a word is expanded for. -/
structure Manner where
  /-- It can become any number of fields. -/
  isFull : Bool
  tilde : Tilde
  /-- Text that stands in it without quotes is split like values. -/
  isLoose : Bool

namespace Manner

def fields : Manner := ⟨true, .infront, false⟩

def value : Manner := ⟨false, .listed, false⟩

def text : Manner := ⟨false, .infront, false⟩

def plain : Manner := ⟨false, .nowhere, false⟩

end Manner

/-- The home directories of those who have one. -/
def homes : List (String × String) :=
  [("root", "/root"), ("daemon", "/usr/sbin"), ("bin", "/bin"), ("sys", "/dev"), ("sync", "/bin"),
    ("games", "/usr/games"), ("man", "/var/cache/man"), ("lp", "/var/spool/lpd"),
    ("mail", "/var/mail"), ("news", "/var/spool/news"), ("uucp", "/var/spool/uucp"),
    ("proxy", "/bin"), ("www-data", "/var/www"), ("backup", "/var/backups"), ("list", "/var/list"),
    ("irc", "/run/ircd"), ("_apt", "/nonexistent"), ("nobody", "/nonexistent")]

/-- The directory that a name behind a tilde stands for. -/
def home? (state : State) (name : Bytes) : Option Bytes :=
  if name = [] then state.value? (Bytes.ofString "HOME")
  else (homes.lookup name.shown).map Bytes.ofString

/-- Text behind a place where a tilde can stand; `isLast` tells whether the word ends with it. -/
def tildeFragments (state : State) (isListed isLast : Bool) (bytes : Bytes) :
    Option (Bytes × Bytes) :=
  match bytes with
  | 0x7E :: rest =>
    let name := rest.takeWhile fun b => b ≠ separator && !(isListed && b = ascii ':')
    let rest := rest.drop name.length
    if rest = [] && !isLast then none else (home? state name).map (·, rest)
  | _ => none

/-- The fragments of text without quotes. `fuel` bounds the number of colons in it. -/
def textFragments (state : State) (manner : Manner) (isFirst isLast : Bool) :
    Nat → Bytes → List Fragment
  | 0, bytes => [.fixed (active bytes)]
  | fuel + 1, bytes =>
    let isListed := manner.tilde = .listed
    let given (bytes : Bytes) : List Fragment :=
      if bytes = [] then []
      else if manner.isLoose then [.loose (active bytes)] else [.fixed (active bytes)]
    let further (rest : Bytes) : List Fragment :=
      if !isListed then given rest
      else
        let piece := rest.takeWhile (· ≠ ascii ':')
        match rest.drop piece.length with
        | [] => given piece
        | colon :: rest =>
          given (piece ++ [colon]) ++ textFragments state manner true isLast fuel rest
    match if isFirst then tildeFragments state isListed isLast bytes else none with
    | some (home, rest) => .fixed (inert home) :: further rest
    | none => further bytes

/-- What stands between values that become one text. -/
def joint (state : State) : Bytes :=
  (state.separators.head?).toList

/-- Values as one text. -/
def joined (state : State) (values : List Bytes) : Bytes :=
  (values.intersperse (joint state)).flatten

/-- The value of a parameter as one text. -/
def single? (state : State) : Parameter → Option Bytes
  | .variable name => state.value? name
  | .argument 0 => some state.name
  | .argument (number + 1) => state.arguments[number]?
  | .count => some (Text.Ascii.ofNat state.arguments.length)
  | .status => some (Text.Ascii.ofNat state.status)
  | .process => some (Text.Ascii.ofNat state.process)
  | .background => state.background?.map Text.Ascii.ofNat
  | .options =>
    some ((Bytes.ofString "ubaCEVvxsnmiIfe").filter state.options.contains)
  | .each | .all => some (joined state state.arguments)

/-- The name of a parameter in a complaint. -/
def nameOf : Parameter → Bytes
  | .variable name => name
  | .argument number => Text.Ascii.ofNat number
  | .each => [ascii '@']
  | .all => [ascii '*']
  | .count => [ascii '#']
  | .status => [ascii '?']
  | .process => [ascii '$']
  | .background => [ascii '!']
  | .options => [ascii '-']

/-- The fragment of a value. -/
def fragment (quoted : Bool) (value : Bytes) : Fragment :=
  if quoted then .fixed (inert value) else .loose (active value)

/-- What stands between arguments that are split into fields. -/
def boundary (state : State) : UInt8 :=
  if (state.value? (Bytes.ofString "IFS")).isSome then 0 else ascii ' '

/-- The fragments of a parameter's plain value. -/
def plainValue (state : State) (manner : Manner) (quoted : Bool) (parameter : Parameter) :
    List Fragment :=
  let isList := parameter = .each || parameter = .all
  if parameter = .each && quoted && manner.isFull then
    if state.arguments.isEmpty then [] else [.each state.arguments]
  else if isList && !quoted && manner.isFull then
    [.loose (active (Text.joinWith (boundary state) state.arguments))]
  else [fragment quoted ((single? state parameter).getD [])]

/-- A text without the line ends at its end and without bytes that no text has. -/
def captured (bytes : Bytes) : Bytes :=
  ((bytes.filter (· ≠ 0)).reverse.dropWhile (· = 0x0A)).reverse

/-- Ends the shell by a signal. -/
def raise (signal : Nat) : Work Unit :=
  Work.ask (Kernel.Request.now fun process system => ((), system.deliver process signal))

/-- The value of an arithmetic expression. -/
def calculate (text : Bytes) : Work Int := do
  match Arithmetic.evaluate (← get).value? text with
  | .ok (value, assignments) =>
    for (name, value) in assignments do
      Work.assign name (Text.Ascii.ofInt value)
    return value
  | .error (.malformed message) =>
    Work.fail (Bytes.ofString ("arithmetic expression: " ++ message ++ ": \"") ++ text
      ++ [ascii '"'])
  | .error (.illegalNumber value) => Work.failNumber value
  | .error .overflow =>
    raise 8
    return 0

/-- Complains that a parameter has no value. -/
def missing {α : Type} (parameter : Parameter) (text : Bytes) : Work α :=
  Work.fail (nameOf parameter ++ Bytes.ofString ": " ++ text)

/-- What the parts of a word stand for. `capture` runs commands and gives what they write. -/
def fragments (capture : Command → Work Bytes) :
    Nat → Manner → Bool → Word → Work (List Fragment)
  | 0, _, _, _ => return []
  | _, _, _, [] => return []
  | fuel + 1, manner, isFirst, part :: rest => do
    let these ←
      match part with
      | .text true bytes => pure [Fragment.fixed (inert bytes)]
      | .text false bytes => do
        let isFirst := isFirst && manner.tilde ≠ .nowhere
        pure (textFragments (← get) manner isFirst rest.isEmpty (bytes.length + 1) bytes)
      | .mark => pure [Fragment.mark]
      | .output quoted command? =>
        match command? with
        | none => pure [fragment quoted []]
        | some command => do pure [fragment quoted (captured (← capture command))]
      | .arithmetic quoted expression => do
        let text := bytesOf (lettersOf (← fragments capture fuel .plain false expression))
        pure [fragment quoted (Text.Ascii.ofInt (← calculate text))]
      | .parameter quoted parameter treatment => do
        let state ← get
        let value? := single? state parameter
        let isMissing (orEmpty : Bool) : Bool :=
          value?.isNone || (orEmpty && value? = some [])
        let inner : Manner := { manner with tilde := .infront, isLoose := !quoted }
        let demand : Work Unit :=
          if state.has 'u' && value?.isNone then
            missing parameter (Bytes.ofString "parameter not set")
          else return ()
        match treatment with
        | .bad => Work.fail (Bytes.ofString "Bad substitution")
        | .value => do
          demand
          pure (plainValue state manner quoted parameter)
        | .length => do
          demand
          pure [fragment quoted (Text.Ascii.ofNat (value?.getD []).length)]
        | .without side longest pattern => do
          demand
          let letters ←
            if value?.isSome then do pure (lettersOf (← fragments capture fuel .text true pattern))
            else pure []
          let pattern := Pattern.ofLetters letters
          let areEach := parameter = .each && quoted && manner.isFull
          let areSplit := (parameter = .each || parameter = .all) && !quoted && manner.isFull
          let value :=
            if areEach then Text.joinWith 0 state.arguments
            else if areSplit then Text.joinWith (boundary state) state.arguments
            else value?.getD []
          let cut :=
            match side with
            | .front => Pattern.withoutFront pattern longest value
            | .back => Pattern.withoutBack pattern longest value
          if areEach then pure [.each (Text.splitAt 0 cut)]
          else pure [fragment quoted cut]
        | .provided orEmpty word =>
          if isMissing orEmpty then pure []
          else fragments capture fuel inner true word
        | .unless orEmpty fallback word =>
          if !isMissing orEmpty then pure (plainValue state manner quoted parameter)
          else
            match fallback with
            | .use => fragments capture fuel inner true word
            | .assign => do
              let value := bytesOf (lettersOf (← fragments capture fuel .text true word))
              Work.assignNamed (nameOf parameter) value
              pure (plainValue (← get) manner quoted parameter)
            | .complain => do
              let text := bytesOf (lettersOf (← fragments capture fuel .text true word))
              if !word.isEmpty then
                missing parameter text
              else if orEmpty then
                missing parameter (Bytes.ofString "parameter not set or null")
              else missing parameter (Bytes.ofString "parameter not set")
    return these ++ (← fragments capture fuel manner false rest)

end ChangelogSql.Shell.Expansion
