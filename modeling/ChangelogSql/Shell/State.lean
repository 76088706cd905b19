import ChangelogSql.Kernel.Activity
import ChangelogSql.Shell.Script
import ChangelogSql.Text.Ascii

/-!
The state of a running shell, and work on it. Work goes on with the state it
leaves, or is stopped; in between, the shell is a process that asks the system
for what it needs. Values are listed in quotes, so that a shell that reads them
gets the same values back.
-/

namespace ChangelogSql.Shell

open Text (ascii)
open Files Programs Kernel

/-- A variable. One without a value can still be marked. -/
structure Variable where
  value? : Option Bytes
  /-- The programs that are started are given it. -/
  isExported : Bool
  isReadOnly : Bool
  deriving DecidableEq

/-- Something a function has for itself, with what it was before. -/
inductive Kept where
  | variable (name : Bytes) (record? : Option Variable)
  | options (letters : List UInt8)
  deriving DecidableEq

/-- Processes that were started together. -/
structure Job where
  number : Nat
  /-- The processes with what is known of their ends, the first first. -/
  processes : List (Nat × Option Status)
  /-- It has been asked how it ended. -/
  isSettled : Bool

/-- The state of a shell. -/
structure State where
  /-- What the shell calls itself. -/
  name : Bytes
  arguments : List Bytes
  bindings : List (Bytes × Variable)
  /-- For each function that runs, what is put back when it ends, the last first. -/
  frames : List (List Kept)
  /-- The commands that the script has given names. -/
  functions : List (Bytes × Command)
  /-- The names that stand for other words. -/
  aliases : List (Bytes × Bytes)
  /-- The letters of the options that are set. -/
  options : List UInt8
  /-- What is done when a signal comes; nothing means that it has no effect. Number 0 is the end of
  the shell. -/
  traps : List (Nat × Bytes)
  /-- Signals that were without effect when the shell was started, and stay so. -/
  fixedSignals : List Nat
  /-- Signals that have come and about which nothing has been done yet. -/
  signals : List Nat
  /-- The documents of the script by their numbers. -/
  documents : List (Nat × Word)
  nextDocument : Nat
  /-- The status of the last command. -/
  status : Nat
  /-- The status of the last substitution, while a command is put together. -/
  substituted : Nat
  /-- The status with which the shell will end, while it does. -/
  ending? : Option Nat
  /-- The last process that was not waited for. -/
  background? : Option Nat
  jobs : List Job
  /-- The number of the process of the outermost shell. -/
  process : Nat
  /-- The working directory as it was gone to. -/
  directory : Bytes
  /-- The line of the command that runs. -/
  line : Nat
  /-- The line up to which the script has been read. -/
  readLine : Nat
  /-- The command of the shell itself that runs. -/
  command? : Option Bytes
  /-- How many loops go round in the function that runs, or in the script. -/
  loops : Nat
  /-- The place of the next option that is looked at among arguments, and in that one. -/
  optionIndex : Nat
  optionOffset : Nat
  /-- What a command of the shell has written and what is not put out yet, the last first. -/
  held : List Bytes
  /-- Where programs have been found: which of the places where they are looked for. -/
  found : List (Bytes × Nat)
  /-- Whether the words of commands are shown while something else is shown already. -/
  isTracing : Bool

/-- What ends work before its end. -/
inductive Stop where
  /-- The shell ends. -/
  | exited
  /-- Something went wrong and has been reported. -/
  | failed
  /-- A function or a script ends, with a status of its own or not. -/
  | returned (hasStatus : Bool)
  | leave (levels : Nat)
  | again (levels : Nat)
  deriving DecidableEq

/-- Something a shell does: it goes on with a result or is stopped. -/
def Work (α : Type) :=
  State → (α → State → Task) → (Stop → State → Task) → Task

namespace Work

variable {α β : Type}

instance : Monad Work where
  pure a := fun state next _ => next a state
  bind work rest := fun state next stop =>
    work state (fun a state => rest a state next stop) stop

instance : MonadStateOf State Work where
  get := fun state next _ => next state state
  set state := fun _ next _ => next () state
  modifyGet change := fun state next _ =>
    let (a, state) := change state
    next a state

instance : MonadExceptOf Stop Work where
  throw reason := fun state _ stop => stop reason state
  tryCatch work handle := fun state next stop =>
    work state next (fun reason state => handle reason state next stop)

/-- Asks the system for something. -/
def ask (request : Kernel.Request α) : Work α := fun state next _ =>
  Activity.ask request fun a => next a state

/-- Does something that has nothing to do with the state. -/
def perform (activity : Activity α) : Work α := fun state next _ =>
  activity fun a => next a state

/-- Begins a process that goes on with the state as it is now, and gives its number. -/
def fork (work : Work Unit) : Work Nat := fun state next _ =>
  .fork (work state (fun _ state => .exit (UInt8.ofNat state.status))
    (fun _ state => .exit (UInt8.ofNat state.status))) fun number => next number state

/-- Ends the process at once. -/
def quit (code : Nat) : Work α := fun _ _ _ =>
  .exit (UInt8.ofNat code)

/-- Does work and something else afterwards, however it ends. -/
def thenAlways (work : Work α) (last : Work Unit) : Work α := do
  let result ←
    tryCatch work fun stop => do
      last
      throw stop
  last
  return result

def setStatus (status : Nat) : Work Unit :=
  modify fun state => { state with status }

/-- Writes to a descriptor at once. -/
def emit (descriptor : Nat) (bytes : Bytes) : Work Unit := do
  let _ ← perform (Activity.write descriptor bytes)

/-- Puts something out when the command that runs is done. -/
def put (bytes : Bytes) : Work Unit :=
  modify fun state => { state with held := bytes :: state.held }

/-- What stands before a complaint. -/
def place (state : State) : Bytes :=
  let label :=
    match state.command? with
    | some command => command ++ Bytes.ofString ": "
    | none => []
  state.name ++ Bytes.ofString (": " ++ toString state.line ++ ": ") ++ label

/-- Complains, with the name of the shell and the line. -/
def report (text : Bytes) : Work Unit := do
  emit 2 (place (← get) ++ text ++ [0x0A])

/-- Complains and gives up what is done. -/
def fail (text : Bytes) : Work α := do
  report text
  setStatus 2
  throw .failed

end Work

namespace State

/-- An option is set. -/
def has (state : State) (option : Char) : Bool :=
  state.options.contains (ascii option)

/-- The value of a variable. -/
def value? (state : State) (name : Bytes) : Option Bytes :=
  (state.bindings.lookup name).bind Variable.value?

/-- The value of a variable, or nothing. -/
def valueOf (state : State) (name : String) : Bytes :=
  (state.value? (Bytes.ofString name)).getD []

/-- The state with another record for a variable. -/
def setVariable (state : State) (name : Bytes) (held? : Option Variable) : State :=
  let bindings :=
    match held? with
    | none => state.bindings.filter fun entry => entry.1 ≠ name
    | some record =>
      if state.bindings.any (·.1 = name) then
        state.bindings.map fun entry => if entry.1 = name then (name, record) else entry
      else state.bindings ++ [(name, record)]
  { state with bindings }

/-- The shelf of a table on which something of a name is kept. -/
def shelf (shelves : Nat) (name : Bytes) : Nat :=
  let first := (name.head?.map fun b => b.toNat * 16).getD 0
  (first + Numeral.total (name.map UInt8.toNat)) % 0x8000 % shelves

/-- How many shelves there are for variables and for other words, and how many for programs. -/
def nameShelves : Nat := 39
def programShelves : Nat := 31

/-- The variables that other programs are given, shelf by shelf. -/
def environment (state : State) : Environment :=
  let given := state.bindings.filterMap fun (name, record) =>
    if record.isExported then record.value?.map (name, ·) else none
  let place (name : Bytes) : Nat := shelf nameShelves name
  given.mergeSort fun entry other => place entry.1 ≤ place other.1

/-- The bytes that separate fields. -/
def separators (state : State) : Bytes :=
  (state.value? (Bytes.ofString "IFS")).getD (Bytes.ofString " \t\n")

/-- The state after what a function that has ended had for itself was put back. -/
def putBack (state : State) (frame : List Kept) : State :=
  frame.foldl
    (fun state kept =>
      match kept with
      | .variable name record? => state.setVariable name record?
      | .options letters => { state with options := letters })
    state

end State

/-- The whole number that a word writes, between blanks. -/
def wholeNumber? (word : Bytes) : Option Int :=
  let isSpace := Text.Ascii.isSpace
  let trimmed := ((word.dropWhile isSpace).reverse.dropWhile isSpace).reverse
  Text.Ascii.integer? trimmed

/-- The number that a word writes, between blanks, if it is not negative or too large. -/
def count? (word : Bytes) : Option Nat :=
  match wholeNumber? word with
  | some (.ofNat number) => if number < 0x80000000 then some number else none
  | _ => none

namespace Work

/-- Complains about what is not the number that it should be. -/
def failNumber {α : Type} (word : Bytes) : Work α :=
  fail (Bytes.ofString "Illegal number: " ++ word)

/-- The variable that tells which argument is looked at next for options. -/
def optionIndexName : Bytes :=
  Bytes.ofString "OPTIND"

/-- What else changes with a variable. -/
def noticeChange (name : Bytes) : Work Unit :=
  if name = optionIndexName then
    modify fun state =>
      let index := (count? (state.valueOf "OPTIND")).getD 1
      { state with optionIndex := max 1 index, optionOffset := 0 }
  else if name = Bytes.ofString "PATH" then
    modify fun state => { state with found := [] }
  else return ()

/-- Changes a variable in a way that one that may only be read does not allow. -/
def alter (name : Bytes) (change : Variable → Variable) : Work Unit := do
  let state ← get
  let before := (state.bindings.lookup name).getD ⟨none, false, false⟩
  if before.isReadOnly then
    fail (name ++ Bytes.ofString ": is read only")
  let after := change before
  if name = optionIndexName && (after.value?.any fun value => (count? value).isNone) then
    failNumber (after.value?.getD [])
  let isExported := after.isExported || state.has 'a'
  set (state.setVariable name (some { after with isExported }))
  noticeChange name

/-- Gives a variable a value. -/
def assign (name value : Bytes) : Work Unit :=
  alter name fun before => { before with value? := some value }

/-- Complains about what is no name of a variable. -/
def checkName (name : Bytes) : Work Unit := do
  unless Text.Ascii.isName name do
    fail (name ++ Bytes.ofString ": bad variable name")

/-- Gives a variable a value where its name is one. -/
def assignNamed (name value : Bytes) : Work Unit := do
  checkName name
  assign name value

/-- Lets the function that runs have something for itself. -/
def keep (kept : State → Kept) : Work Unit :=
  modify fun state =>
    match state.frames with
    | [] => state
    | frame :: frames => { state with frames := (kept state :: frame) :: frames }

/-- Lets the function that runs have a variable for itself. -/
def keepLocal (name : Bytes) : Work Unit :=
  keep fun state => .variable name (state.bindings.lookup name)

/-- Does work with variables of its own, which are put back afterwards. -/
def withFrame {α : Type} (work : Work α) : Work α := do
  modify fun state => { state with frames := [] :: state.frames }
  thenAlways work do
    let state ← get
    match state.frames with
    | [] => return ()
    | frame :: frames =>
      set ({ state with frames }.putBack frame)
      for kept in frame do
        match kept with
        | .options _ => pure ()
        | .variable name record? =>
          noticeChange name
          if record?.isNone && !Text.Ascii.isName name then
            fail (name ++ Bytes.ofString ": bad variable name")

end Work

/-- A text between single quotes; single quotes in it stand between double ones. `fuel` bounds how
often it changes between both. -/
def inQuotes : Nat → Bytes → Bytes
  | 0, _ => []
  | fuel + 1, text =>
    let run := text.takeWhile (· ≠ 0x27)
    let quotes := (text.drop run.length).takeWhile (· = 0x27)
    let rest := text.drop (run.length + quotes.length)
    let here := 0x27 :: run ++ [0x27]
    if quotes = [] then here
    else
      let here := here ++ 0x22 :: quotes ++ [0x22]
      if rest = [] then here else here ++ inQuotes fuel rest

/-- A text in quotes. -/
def quoted (text : Bytes) : Bytes :=
  inQuotes (text.length + 1) text

/-- A name with its value, as it is listed. -/
def listed (name value : Bytes) : Bytes :=
  name ++ ascii '=' :: quoted value

namespace State

/-- The variables that a test accepts, in the order of their names. -/
def sortedVariables (state : State) (test : Variable → Bool) : List (Bytes × Variable) :=
  (state.bindings.filter fun entry => test entry.2).mergeSort fun entry other =>
    entry.1 ≤ other.1

/-- The lines that list variables behind a word. -/
def variableLines (state : State) (word : String) (test : Variable → Bool) : List Bytes :=
  (state.sortedVariables test).map fun (name, record) =>
    let text :=
      match record.value? with
      | some value => listed name value
      | none => name
    (if word = "" then [] else Bytes.ofString (word ++ " ")) ++ text ++ [0x0A]

/-- The names that stand for others, shelf by shelf. -/
def sortedAliases (state : State) : List (Bytes × Bytes) :=
  state.aliases.mergeSort fun entry other => shelf nameShelves entry.1 ≤ shelf nameShelves other.1

end State

end ChangelogSql.Shell
