import ChangelogSql.Numeral.Directive
import ChangelogSql.Numeral.Reader
import ChangelogSql.Shell.Format
import ChangelogSql.Utility.Launch
import ChangelogSql.Utility.Option
import ChangelogSql.Utility.Quotation

/-!
The programs that only say something, about their arguments or about what they
run in, and those that start others in other surroundings.
-/

namespace ChangelogSql.Utility.Say

open Text (ascii)
open Files Programs Kernel
open Tool

/-- Complains that an operand is missing. -/
def missingOperand {α : Type} : Tool α :=
  misuse 1 (Bytes.ofString "missing operand")

/-- Complains about an operand that is one too many. -/
def extraOperand {α : Type} (operand : Bytes) : Tool α :=
  misuse 1 (Bytes.ofString "extra operand " ++ Quotation.cited operand)

/-- A text with its sequences replaced as a plain echo does, and whether it was ended early. -/
def replacedFrom : Nat → Bytes → Bytes × Bool
  | _, [] => ([], false)
  | skip + 1, _ :: rest => replacedFrom skip rest
  | 0, b :: rest =>
    if b ≠ 0x5C then
      let (bytes, ended) := replacedFrom 0 rest
      (b :: bytes, ended)
    else
      match rest with
      | 0x63 :: _ => ([], true)
      | 0x30 :: digits =>
        let (byte, count) := Shell.Format.octal digits
        let (bytes, ended) := replacedFrom (count + 1) rest
        (byte :: bytes, ended)
      | 0x78 :: digits =>
        let run := (digits.take 2).takeWhile fun b => (Text.Ascii.hexDigit? b).isSome
        let value := (run.filterMap Text.Ascii.hexDigit?).foldl (fun value d => value * 16 + d) 0
        let count := if run = [] then 0 else run.length + 1
        let (bytes, ended) := replacedFrom count rest
        ((if run = [] then b else UInt8.ofNat value) :: bytes, ended)
      | next :: _ =>
        let (byte, count) :=
          match Shell.Format.simple? next with
          | some byte => (byte, 1)
          | none => (b, 0)
        let (bytes, ended) := replacedFrom count rest
        (byte :: bytes, ended)
      | [] => ([b], false)

/-- Puts out arguments with blanks between them. -/
def echo (arguments : List Bytes) : Tool Unit := do
  let isOption (argument : Bytes) : Bool :=
    match argument with
    | 0x2D :: letter :: letters =>
      (letter :: letters).all fun b => b = ascii 'n' || b = ascii 'e' || b = ascii 'E'
    | _ => false
  let options := (arguments.takeWhile isOption).flatten
  let isQuiet := options.contains (ascii 'n')
  let replaces := (options.filter fun b => b = ascii 'e' || b = ascii 'E').getLast? = some (ascii 'e')
  let text := Text.joinWith (ascii ' ') (arguments.dropWhile isOption)
  let (text, ended) := if replaces then replacedFrom 0 text else (text, false)
  put (if isQuiet || ended then text else text ++ [0x0A])

/-- Ends with a code at once. -/
def verdict (code : UInt8) : Tool Unit :=
  setCode code

/-- How often something is repeated at most. -/
def repeatLimit : Nat := 1000000

/-- Puts out a line again and again. -/
def yes (arguments : List Bytes) : Tool Unit := do
  whenUnheard fun reason => (1, ["standard output: " ++ reason])
  let line := if arguments.isEmpty then [ascii 'y'] else Text.joinWith (ascii ' ') arguments
  let block := (List.replicate (max 1 (1024 / (line.length + 1))) (line ++ [0x0A])).flatten
  let rec again : Nat → Tool Unit
    | 0 => return ()
    | count + 1 => do
      put block
      flush
      again count
  again repeatLimit

/-- The duration in nanoseconds that a text says. -/
def duration? (text : Bytes) : Option Nat := do
  let reading ← Numeral.Reading.ofBytes? .double text
  let factor ←
    match Bytes.shown reading.rest with
    | "" | "s" => some 1
    | "m" => some 60
    | "h" => some 3600
    | "d" => some 86400
    | _ => none
  match reading.number with
  | .finite isNegative _ _ =>
    if isNegative then none
    else
      let (dividend, divisor) := reading.number.magnitude
      some (dividend * factor * 1000000000 / divisor)
  | .infinite false => some 1000000000000000000
  | _ => none

/-- Sleeps, whatever signals come. -/
def sleepThrough (time : Nat) : Nat → Tool Unit
  | 0 => return ()
  | fuel + 1 => do
    match ← ask (Kernel.Request.sleepUntil time) with
    | .ok () => return ()
    | .error _ => sleepThrough time fuel

/-- Waits for a time. -/
def sleep (arguments : List Bytes) : Tool Unit := do
  let given ← options [] arguments 1
  if given.operands.isEmpty then
    missingOperand
  let durations := given.operands.map duration?
  for (operand, duration) in given.operands.zip durations do
    if duration.isNone then
      warn (Bytes.ofString "invalid time interval " ++ Quotation.cited operand)
      setCode 1
  if durations.any Option.isNone then
    hint
  else
    let clock ← ask (Kernel.Request.look fun _ system => system.disk.clock)
    sleepThrough (clock + Numeral.total (durations.map (·.getD 0))) repeatLimit

/-- The environment with a variable. -/
def withVariable (environment : Environment) (name value : Bytes) : Environment :=
  if environment.any (·.1 = name) then
    environment.map fun entry => if entry.1 = name then (name, value) else entry
  else environment ++ [(name, value)]

/-- Puts out the variables of an environment. -/
def putVariables (environment : Environment) (ending : UInt8) : Tool Unit := do
  for (name, value) in environment do
    put (name ++ ascii '=' :: value ++ [ending])

/-- Words in a text that stands in the first line of a script: blanks separate them, and quotes and
backslashes keep them together. `word?` is the one that has begun. -/
def wordsOf (environment : Environment) :
    Nat → Option UInt8 → Option Bytes → Bytes → List Bytes
  | 0, _, _, _ => []
  | _, _, word?, [] => word?.toList
  | fuel + 1, quote?, word?, b :: rest =>
    let word := word?.getD []
    match quote? with
    | some quote =>
      if b = quote then wordsOf environment fuel none (some word) rest
      else if b = 0x5C then
        match rest with
        | next :: rest =>
          let bytes :=
            if next = quote || next = 0x5C then [next]
            else if quote = 0x22 then
              match Shell.Format.simple? next with
              | some byte => [byte]
              | none => [next]
            else [b, next]
          wordsOf environment fuel quote? (some (word ++ bytes)) rest
        | [] => [word]
      else wordsOf environment fuel quote? (some (word ++ [b])) rest
    | none =>
      if Text.Ascii.isSpace b then
        word?.toList ++ wordsOf environment fuel none none rest
      else if b = 0x22 || b = 0x27 then wordsOf environment fuel (some b) (some word) rest
      else if b = ascii '#' && word?.isNone then []
      else if b = 0x5C then
        match rest with
        | next :: rest =>
          if next = ascii '_' then word?.toList ++ wordsOf environment fuel none none rest
          else if next = ascii 'c' then word?.toList
          else
            let byte := (Shell.Format.simple? next).getD next
            wordsOf environment fuel none (some (word ++ [byte])) rest
        | [] => [word]
      else if b = ascii '$' && rest.head? = some 0x7B then
        let name := (rest.drop 1).takeWhile (· ≠ 0x7D)
        let value := (environment.lookup name).getD []
        wordsOf environment fuel none (some (word ++ value)) (rest.drop (name.length + 2))
      else wordsOf environment fuel none (some (word ++ [b])) rest

/-- The options of a program that starts another one in other surroundings. -/
def surroundings : List Form :=
  [toggle "i" ["ignore-environment"], setting "u" ["unset"], toggle "0" ["null"],
    setting "C" ["chdir"], setting "S" ["split-string"], toggle "v" ["debug"]]

/-- Arguments in which a text with words in it has been taken apart. -/
def expandedWords (environment : Environment) : Nat → List Bytes → List Bytes
  | 0, arguments => arguments
  | _, [] => []
  | fuel + 1, argument :: rest =>
    let apart (text : Bytes) (rest : List Bytes) : List Bytes :=
      expandedWords environment fuel (wordsOf environment (text.length + 1) none none text ++ rest)
    match argument with
    | [0x2D, 0x53] =>
      match rest with
      | text :: rest => apart text rest
      | [] => [argument]
    | 0x2D :: 0x53 :: text => apart text rest
    | 0x2D :: 0x76 :: 0x53 :: text => apart text rest
    | 0x2D :: letter :: _ =>
      if letter = ascii 'u' || letter = ascii 'C' then
        if argument.length = 2 then argument :: rest.take 1 ++ expandedWords environment fuel (rest.drop 1)
        else argument :: expandedWords environment fuel rest
      else if Bytes.ofString "--split-string=" |>.isPrefixOf argument then
        apart (argument.drop 15) rest
      else argument :: expandedWords environment fuel rest
    | _ => argument :: rest

/-- Starts a program with other variables, or shows the variables. -/
def env (loader : Loader) (call : Call) : Tool Unit := do
  whenUnheard fun reason => (125, ["write error: " ++ reason])
  let arguments := call.arguments
  let given ← leadingOptions surroundings (expandedOnce call.environment arguments) 125
  let isBare := given.has "i" || given.operands.head? = some [ascii '-']
  let operands :=
    if given.operands.head? = some [ascii '-'] then given.operands.drop 1 else given.operands
  let start := if isBare then [] else call.environment
  let removed := given.options.filterMap fun entry => if entry.1 = "u" then entry.2 else none
  let start := start.filter fun entry => !removed.contains entry.1
  let isAssignment (operand : Bytes) : Bool := operand.contains (ascii '=')
  let environment := (operands.takeWhile isAssignment).foldl
    (fun environment operand =>
      let name := operand.takeWhile (· ≠ ascii '=')
      withVariable environment name (operand.drop (name.length + 1)))
    start
  match given.value? "C" with
  | some directory =>
    match ← ask (Kernel.Request.enter ⟨directory⟩) with
    | .ok () => pure ()
    | .error fault =>
      failWith 125 (Bytes.ofString "cannot change directory to " ++ Quotation.quoted directory
        ++ Bytes.ofString (": " ++ fault.reason))
  | none => pure ()
  match operands.dropWhile isAssignment with
  | [] => putVariables environment (if given.has "0" then 0 else 0x0A)
  | program :: arguments =>
    let fault ← replace loader environment program arguments
    let code : UInt8 := if fault = .notFound then 127 else 126
    warn (Quotation.quoted program ++ Bytes.ofString (": " ++ fault.reason))
    if fault = .notFound && program.contains (ascii ' ') then
      warn (Bytes.ofString "use -[v]S to pass options in shebang lines")
    setCode code
where
  /-- Arguments in which the text behind `-S` has been taken apart. -/
  expandedOnce (environment : Environment) (arguments : List Bytes) : List Bytes :=
    expandedWords environment (arguments.length + Numeral.total (arguments.map List.length) + 1) arguments

/-- Puts out the values of variables, or all of them. -/
def printVariables (call : Call) : Tool Unit := do
  let given ← leadingOptions [toggle "0" ["null"]] call.arguments 2
  let ending : UInt8 := if given.has "0" then 0 else 0x0A
  if given.operands.isEmpty then putVariables call.environment ending
  else
    for name in given.operands do
      match call.environment.lookup name with
      | some value => put (value ++ [ending])
      | none => setCode 1

/-- Puts out the working directory. -/
def directory (call : Call) : Tool Unit := do
  let given ← options [toggle "L" ["logical"], toggle "P" ["physical"]] call.arguments 1
  let seen ← view
  let physical? := seen.currentDirectory
  let logical? : Option Bytes :=
    match call.environment.lookup (Bytes.ofString "PWD") with
    | some (0x2F :: rest) =>
      match seen.locate ⟨0x2F :: rest⟩ with
      | .ok location => if location = seen.cwd then some (0x2F :: rest) else none
      | .error _ => none
    | _ => none
  match if given.has "L" then logical? else none, physical? with
  | some path, _ => putLine path
  | none, .ok path => putLine path.bytes
  | none, .error fault =>
    failWith 1 (Bytes.ofString ("couldn't find directory entry in '..' with matching i-node: "
      ++ fault.reason))

/-- A path without separators at its end, unless there is nothing else. -/
def withoutEnd (path : Bytes) : Bytes :=
  let cut := (path.reverse.dropWhile (· = separator)).reverse
  if cut = [] then path.take 1 else cut

/-- The last segment of a path. -/
def lastOf (path : Bytes) : Bytes :=
  let path := withoutEnd path
  if path = [separator] then path
  else (path.reverse.takeWhile (· ≠ separator)).reverse

/-- What stands before the last segment of a path. -/
def beforeLast (path : Bytes) : Bytes :=
  let path := withoutEnd path
  let rest := (path.reverse.dropWhile (· ≠ separator)).reverse
  if rest = [] then [ascii '.'] else withoutEnd rest

/-- A name without an ending that is not all of it. -/
def withoutSuffix (name suffix : Bytes) : Bytes :=
  if suffix ≠ [] && suffix.length < name.length && suffix.isSuffixOf name then
    name.take (name.length - suffix.length)
  else name

/-- Puts out the last segments of paths. -/
def names (arguments : List Bytes) : Tool Unit := do
  let given ← leadingOptions [toggle "a" ["multiple"], setting "s" ["suffix"],
    toggle "z" ["zero"]] arguments 1
  let ending : UInt8 := if given.has "z" then 0 else 0x0A
  let isMany := given.has "a" || given.has "s"
  match given.operands with
  | [] => missingOperand
  | first :: rest =>
    if !isMany && 2 ≤ rest.length then
      extraOperand ((rest.drop 1).headD [])
    let suffix := if isMany then (given.value? "s").getD [] else rest.headD []
    for path in if isMany then first :: rest else [first] do
      put (withoutSuffix (lastOf path) suffix ++ [ending])

/-- Puts out what stands before the last segments of paths. -/
def directories (arguments : List Bytes) : Tool Unit := do
  let given ← options [toggle "z" ["zero"]] arguments 1
  let ending : UInt8 := if given.has "z" then 0 else 0x0A
  if given.operands.isEmpty then
    missingOperand
  for path in given.operands do
    put (beforeLast path ++ [ending])

/-- A number with so many digits behind the point, as a whole number of its last digits. -/
structure Fixed where
  value : Int
  places : Nat
  /-- How wide it is written. -/
  width : Nat

/-- The number that a text writes without an exponent. -/
def fixed? (text : Bytes) : Option Fixed :=
  let isNegative := text.head? = some (ascii '-')
  let body := if isNegative || text.head? = some (ascii '+') then text.drop 1 else text
  let (digits, places, rest) := Numeral.Reading.digits Text.Ascii.isDigit body
  if digits = [] || rest ≠ [] then none
  else
    let value : Int := Text.Ascii.value 10 digits
    some ⟨if isNegative then -value else value, places, text.length⟩

/-- A number with so many digits behind the point. -/
def fixedText (value : Int) (places : Nat) : Bytes :=
  (if value < 0 then [ascii '-'] else [])
    ++ Numeral.Directive.pointed false (Numeral.Directive.digitsOf 10 value.natAbs) places

/-- A text as wide as others, with zeros behind its sign. -/
def zeroFilled (width : Nat) (text : Bytes) : Bytes :=
  match text with
  | 0x2D :: rest => ascii '-' :: (List.replicate (width - 1 - rest.length) (ascii '0') ++ rest)
  | text => List.replicate (width - text.length) (ascii '0') ++ text

/-- Arguments up to the first that is no option, where a negative number is none. -/
def guarded (arguments : List Bytes) : List Bytes :=
  match arguments with
  | [] => []
  | argument :: rest =>
    match argument with
    | 0x2D :: b :: _ =>
      if Text.Ascii.isDigit b || b = ascii '.' then Bytes.ofString "--" :: arguments
      else if argument = Bytes.ofString "-s" || argument = Bytes.ofString "-f" then
        argument :: rest.take 1 ++ guarded (rest.drop 1)
      else argument :: guarded rest
    | _ => arguments
termination_by arguments.length
decreasing_by all_goals (simp; try omega)

/-- Puts out numbers one after the other. -/
def sequence (arguments : List Bytes) : Tool Unit := do
  let given ← leadingOptions [setting "s" ["separator"], setting "f" ["format"],
    toggle "w" ["equal-width"]] (guarded arguments) 1
  let numbers ← given.operands.mapM fun operand => do
    match fixed? operand with
    | some number => pure number
    | none => misuse 1 (Bytes.ofString "invalid floating point argument: "
        ++ Quotation.cited operand)
  let one : Fixed := ⟨1, 0, 1⟩
  let (first, step, last) ←
    match numbers with
    | [] => missingOperand
    | [last] => pure (one, one, last)
    | [first, last] => pure (first, one, last)
    | [first, step, last] => pure (first, step, last)
    | _ => extraOperand ((given.operands.drop 3).headD [])
  let places := max first.places step.places
  let all := max places last.places
  let scale (number : Fixed) : Int := number.value * (Numeral.tenTo (all - number.places) : Nat)
  let (start, by', goal) := (scale first, scale step, scale last)
  if by' = 0 then
    misuse 1 (Bytes.ofString "invalid Zero increment value: "
      ++ Quotation.cited ((given.operands.drop 1).headD []))
  let count : Nat :=
    if (0 < by' && goal < start) || (by' < 0 && start < goal) then 0
    else ((goal - start) / by').toNat + 1
  let separator' := (given.value? "s").getD [0x0A]
  let text (place : Nat) : Bytes :=
    let value := start + by' * (place : Int)
    fixedText (value.tdiv (Numeral.tenTo (all - places) : Nat)) places
  let width := max (text 0).length (text (count - 1)).length
  let shown (place : Nat) : Bytes :=
    match given.value? "f" with
    | some format =>
      (Shell.Format.printed format [fixedText (start + by' * (place : Int)) all]).1
    | none => if given.has "w" then zeroFilled width (text place) else text place
  for place in List.range (min count repeatLimit) do
    if place ≠ 0 then
      put separator'
    put (shown place)
  if count ≠ 0 then
    put [0x0A]

/-- Tells who runs the program. -/
def identity (arguments : List Bytes) : Tool Unit := do
  let given ← options [toggle "u" ["user"], toggle "g" ["group"], toggle "G" ["groups"],
    toggle "n" ["name"], toggle "r" ["real"], toggle "z" ["zero"]] arguments 1
  let isSingle := given.has "u" || given.has "g" || given.has "G"
  let text :=
    if isSingle then (if given.has "n" then "root" else "0")
    else "uid=0(root) gid=0(root) groups=0(root)"
  putLine (Bytes.ofString text)

/-- Puts out a text that is always the same. -/
def constant (text : String) : Tool Unit :=
  putLine (Bytes.ofString text)

/-- Tells what system it is. -/
def system (arguments : List Bytes) : Tool Unit := do
  let given ← options [toggle "a" ["all"], toggle "s" ["kernel-name"], toggle "n" ["nodename"],
    toggle "r" ["kernel-release"], toggle "v" ["kernel-version"], toggle "m" ["machine"],
    toggle "p" ["processor"], toggle "i" ["hardware-platform"], toggle "o" ["operating-system"]]
    arguments 1
  let parts := [("s", "Linux"), ("n", "localhost"), ("r", "6.1.0"), ("v", "#1 SMP"), ("m", "x86_64"),
    ("o", "GNU/Linux")]
  let wanted := parts.filter fun part =>
    given.has "a" || given.has part.1 || (given.options.isEmpty && part.1 = "s")
  putLine (Bytes.ofString (String.intercalate " " (wanted.map Prod.snd)))

end ChangelogSql.Utility.Say
