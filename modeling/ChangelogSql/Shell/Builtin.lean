import ChangelogSql.Files.Mode
import ChangelogSql.Shell.Condition
import ChangelogSql.Shell.Directory
import ChangelogSql.Shell.Format
import ChangelogSql.Shell.Input
import ChangelogSql.Shell.Job

/-!
The commands that a shell runs by itself. Where a special one goes wrong the
script ends; where another one does, it fails like a program.
-/

namespace ChangelogSql.Shell.Builtin

open Text (ascii)
open Files Programs Kernel

/-- A command that gives its status. -/
abbrev Routine := List Bytes → Work Nat

def echo : Routine := fun arguments => do
  Work.put (Format.echoed arguments)
  return 0

def printf : Routine := fun arguments => do
  let arguments ← operandsOf arguments
  match arguments with
  | [] => Work.fail (Bytes.ofString "usage: printf format [arg ...]")
  | format :: arguments =>
    let (text, complaints, ending?) := Format.printed format arguments
    for complaint in complaints do
      Work.report complaint
    Work.put text
    match ending? with
    | some (.failed text) => Work.fail text
    | _ => return if complaints.isEmpty then 0 else 1

/-- Decides a condition. -/
def decide (arguments : List Bytes) : Work Nat := do
  match Condition.holds (← Work.ask Kernel.Request.view) arguments with
  | .ok holds => return if holds then 0 else 1
  | .error message => Work.fail message

/-- Decides a condition in brackets. -/
def bracket : Routine := fun arguments => do
  if arguments.getLast? = some [ascii ']'] then decide arguments.dropLast
  else Work.fail (Bytes.ofString "missing ]")

/-- How a signal is to be sent. -/
def killUsage : String :=
  "Usage: kill [-s sigspec | -signum | -sigspec] [pid | job]... or\nkill -l [exitstatus]"

/-- Lists signals, or names the one that belongs to a status. -/
def listSignals : List Bytes → Work Nat
  | [] => do
    Work.put (Bytes.ofString "0\n")
    for number in (List.range Signal.count).drop 1 do
      Work.put (Bytes.ofString (Signal.name number ++ "\n"))
    return 0
  | operand :: _ => do
    let number ← numberOf operand
    let number := if 128 < number then number - 128 else number
    if 0 < number && number < Signal.count then
      Work.put (Bytes.ofString (Signal.name number ++ "\n"))
      return 0
    else Work.fail (Bytes.ofString "invalid signal number or exit status: " ++ operand)

/-- Sends a signal to processes, one after the other. -/
def sendAll (signal : Nat) : Nat → List Bytes → Work Nat
  | status, [] => return status
  | status, target :: rest => do
    let process? ←
      if target.head? = some (ascii '%') then do
        let _ ← Work.jobOf target
        pure none
      else if target.head? = some (ascii '-') then do
        let _ ← numberOf (target.drop 1)
        pure none
      else some <$> numberOf target
    let sent : Except Fault Unit ←
      match process? with
      | none => pure (.error .noSuchProcess)
      | some process => Work.ask (Kernel.Request.send process signal)
    match sent with
    | .ok () => sendAll signal status rest
    | .error fault =>
      Work.report (Bytes.ofString (fault.reason ++ "\n"))
      sendAll signal 1 rest

def kill : Routine := fun arguments => do
  let usage : Work Nat := Work.fail (Bytes.ofString killUsage)
  match arguments with
  | [] => usage
  | first :: rest =>
    let direct? :=
      match first with
      | 0x2D :: name => Signal.ofText? 1 name
      | _ => none
    match direct? with
    | some signal => if rest.isEmpty then usage else sendAll signal 0 rest
    | none => do
      let (given, operands) ←
        if first.head? = some (ascii '-') then optionsOf "l" "s" arguments
        else pure ([], arguments)
      let isList := given.any (·.1 = 'l')
      let mut signal? : Option Nat := none
      for (letter, value) in given do
        if letter = 's' then
          match Signal.ofText? 1 value with
          | some signal => signal? := some signal
          | none => Work.fail (Bytes.ofString "invalid signal number or name: " ++ value)
      if isList then
        if signal?.isSome then usage else listSignals operands
      else if operands.isEmpty then usage
      else sendAll (signal?.getD 15) 0 operands

/-- Takes away arguments up front. -/
def shift : Routine := fun arguments => do
  let count ←
    match arguments with
    | [] => pure 1
    | operand :: _ => numberOf operand
  let state ← get
  if state.arguments.length < count then
    Work.fail (Bytes.ofString "can't shift that many")
  set { state with arguments := state.arguments.drop count, optionIndex := 1, optionOffset := 0 }
  return 0

/-- Puts out lines. -/
def putAll (lines : List Bytes) : Work Nat := do
  for line in lines do
    Work.put line
  return 0

/-- Sets options and arguments, or lists all variables. -/
def setAll : Routine := fun arguments => do
  if arguments.isEmpty then
    putAll ((← get).variableLines "" fun record => record.value?.isSome)
  else
    let words ← setOptions false (arguments.length + 1) arguments
    if !words.rest.isEmpty || words.clears then
      modify fun state =>
        { state with arguments := words.rest, optionIndex := 1, optionOffset := 0 }
    return 0

/-- Ends the shell. -/
def exit : Routine := fun arguments => do
  match arguments with
  | operand :: _ =>
    let status ← numberOf operand
    modify fun state => { state with ending? := some status }
  | [] => pure ()
  modify fun state => { state with status := state.ending?.getD state.status }
  throw .exited

/-- Ends a function, or the script where none is running. -/
def goBack : Routine := fun arguments => do
  match arguments with
  | operand :: _ =>
    let status ← numberOf operand
    Work.setStatus status
    throw (.returned true)
  | [] => throw (.returned false)

/-- Stops the round of a loop. Outside of loops nothing happens, and no more loops than there are
can be left. -/
def endRound (stop : Nat → Stop) : Routine := fun arguments => do
  let levels ←
    match arguments with
    | [] => pure 1
    | operand :: _ => do
      let levels ← numberOf operand
      if levels = 0 then
        Work.failNumber operand
      pure levels
  let levels := min levels (← get).loops
  if levels = 0 then return 0
  else
    Work.setStatus 0
    throw (stop levels)

/-- A word as a name and what follows the first equals sign in it. -/
def divided (word : Bytes) : Bytes × Option Bytes :=
  let name := word.takeWhile (· ≠ ascii '=')
  match word.drop name.length with
  | [] => (name, none)
  | _ :: value => (name, some value)

/-- Marks variables in some way, with new values or not, or lists those that are marked. -/
def markAll (word : String) (isMarked : Variable → Bool) (mark : Variable → Variable) : Routine :=
  fun arguments => do
    let (given, operands) ← optionsOf "p" "" arguments
    if !given.isEmpty || operands.isEmpty then
      putAll ((← get).variableLines word isMarked)
    else
      for operand in operands do
        let (name, value?) := divided operand
        let known := (← get).bindings.any (·.1 = name)
        match value? with
        | some value =>
          Work.checkName name
          Work.alter name fun before => mark { before with value? := some value }
        | none =>
          if known then
            modify fun state =>
              state.setVariable name ((state.bindings.lookup name).map mark)
          else
            Work.checkName name
            Work.alter name mark
      return 0

def exportAll : Routine :=
  markAll "export" (·.isExported) fun before => { before with isExported := true }

def protectAll : Routine :=
  markAll "readonly" (·.isReadOnly) fun before => { before with isReadOnly := true }

/-- Lets the function that runs have variables or the options for itself. -/
def localAll : Routine := fun arguments => do
  if (← get).frames.isEmpty then
    Work.fail (Bytes.ofString "not in a function")
  for argument in arguments do
    if argument = [ascii '-'] then
      Work.keep fun state => .options state.options
    else
      let (name, value?) := divided argument
      Work.keepLocal name
      match value? with
      | some value => Work.assign name value
      | none =>
        unless (← get).bindings.any (·.1 = name) do
          Work.checkName name
          Work.alter name id
  return 0

/-- Takes away variables, or functions after `-f`. -/
def unsetAll : Routine := fun arguments => do
  let (given, operands) ← optionsOf "vf" "" arguments
  let inFunctions := given.getLast?.map Prod.fst = some 'f'
  for operand in operands do
    if inFunctions then
      modify fun state =>
        { state with functions := state.functions.filter fun entry => entry.1 ≠ operand }
    else
      Work.checkName operand
      let isReadOnly := ((← get).bindings.lookup operand).any Variable.isReadOnly
      if isReadOnly then
        Work.fail (operand ++ Bytes.ofString ": is read only")
      if operand = Work.optionIndexName then
        Work.failNumber []
      modify fun state => state.setVariable operand none
      Work.noticeChange operand
  return 0

/-- What a look at the next option among arguments has found. -/
structure NextOption where
  letter : UInt8
  /-- What belongs to the option; nothing means that there is no such variable afterwards. -/
  value? : Option Bytes
  complaint? : Option Bytes
  isOver : Bool
  index : Nat
  offset : Nat

/-- Looks at the next option: in the word at a place, behind an offset, or in the next word. -/
def nextOption (known : Bytes) (words : List Bytes) (index offset : Nat) : NextOption :=
  let isQuiet := known.head? = some (ascii ':')
  let letters := if isQuiet then known.drop 1 else known
  let current := if index ≤ 1 || offset = 0 then [] else (words[index - 2]?.getD []).drop offset
  let question := ascii '?'
  let ended (index : Nat) : NextOption := ⟨question, none, none, true, index, 0⟩
  let look (word : Bytes) (index offset : Nat) : NextOption :=
    match word with
    | [] => ended index
    | letter :: rest =>
      let offset' := if rest = [] then 0 else offset + 1
      match if letter = ascii ':' then [] else letters.dropWhile (· ≠ letter) with
      | [] =>
        if isQuiet then ⟨question, some [letter], none, false, index, offset'⟩
        else
          ⟨question, none, some (Bytes.ofString "Illegal option -" ++ [letter, 0x0A]), false, index,
            offset'⟩
      | _ :: 0x3A :: _ =>
        if rest ≠ [] then ⟨letter, some rest, none, false, index, 0⟩
        else
          match words[index - 1]? with
          | some value => ⟨letter, some value, none, false, index + 1, 0⟩
          | none =>
            if isQuiet then ⟨ascii ':', some [letter], none, false, index, 0⟩
            else
              ⟨question, none,
                some (Bytes.ofString "No arg for -" ++ letter :: Bytes.ofString " option\n"), false,
                index, 0⟩
      | _ => ⟨letter, some [], none, false, index, offset'⟩
  if current ≠ [] then look current index offset
  else
    match words[index - 1]? with
    | some [0x2D, 0x2D] => ended (index + 1)
    | some (0x2D :: letter :: rest) => look (letter :: rest) (index + 1) 1
    | _ => ended index

/-- Takes the next option from arguments. -/
def getOption : Routine := fun arguments => do
  let arguments ← operandsOf arguments
  match arguments with
  | known :: name :: given =>
    let state ← get
    let words := if given.isEmpty then state.arguments else given
    let (index, offset) :=
      if words.length + 1 < state.optionIndex then (1, 0)
      else (state.optionIndex, state.optionOffset)
    let found := nextOption known words (max 1 index) offset
    let option := Bytes.ofString "OPTARG"
    match found.complaint? with
    | some complaint => Work.emit 2 complaint
    | none => pure ()
    unless found.isOver do
      match found.value? with
      | some value => Work.assign option value
      | none => modify fun state => state.setVariable option none
    Work.assign (Bytes.ofString "OPTIND") (Text.Ascii.ofNat found.index)
    modify fun state => { state with optionIndex := found.index, optionOffset := found.offset }
    Work.assignNamed name [found.letter]
    return if found.isOver then 1 else 0
  | _ => Work.fail (Bytes.ofString "Usage: getopts optstring var [arg...]")

/-- Lists names that stand for other words, or gives words such names. -/
def aliases : Routine := fun arguments => do
  let line (entry : Bytes × Bytes) : Bytes := listed entry.1 entry.2 ++ [0x0A]
  if arguments.isEmpty then
    putAll ((← get).sortedAliases.map line)
  else
    let mut status := 0
    for argument in arguments do
      match argument with
      | [] => pure ()
      | first :: rest =>
        let (name, value?) := divided rest
        let name := first :: name
        match value? with
        | some value =>
          modify fun state =>
            let known := state.aliases.any (·.1 = name)
            { state with
              aliases :=
                if known then
                  state.aliases.map fun entry => if entry.1 = name then (name, value) else entry
                else state.aliases ++ [(name, value)] }
        | none =>
          match (← get).aliases.lookup name with
          | some value => Work.put (line (name, value))
          | none =>
            Work.emit 2 (Bytes.ofString "alias: " ++ name ++ Bytes.ofString " not found\n")
            status := 1
    return status

/-- Takes away names that stand for other words. -/
def unaliases : Routine := fun arguments => do
  let (given, operands) ← optionsOf "a" "" arguments
  if !given.isEmpty then
    modify fun state => { state with aliases := [] }
    return 0
  else
    let mut status := 0
    for operand in operands do
      if (← get).aliases.any (·.1 = operand) then
        modify fun state =>
          { state with aliases := state.aliases.filter fun entry => entry.1 ≠ operand }
      else
        Work.emit 2 (Bytes.ofString "unalias: " ++ operand ++ Bytes.ofString " not found\n")
        status := 1
    return status

/-- Lists what is done about signals. -/
def listTraps : Work Nat := do
  let state ← get
  for signal in List.range Signal.count do
    match state.traps.lookup signal with
    | some action =>
      Work.put (Bytes.ofString "trap -- " ++ quoted action
        ++ Bytes.ofString (" " ++ Signal.name signal ++ "\n"))
    | none => pure ()
  return 0

/-- Lets something be done about a signal; nothing stands for what usually happens. -/
def arrange (action? : Option Bytes) (signal : Nat) : Work Unit := do
  modify fun state =>
    let others := state.traps.filter (·.1 ≠ signal)
    match action? with
    | some action => { state with traps := (signal, action) :: others }
    | none => { state with traps := others }
  unless signal = 0 || signal = 9 || signal = 19 || (← get).fixedSignals.contains signal do
    Work.ask (Kernel.Request.arrange signal
      (match action? with
      | none => .usual
      | some [] => .ignored
      | some _ => .caught))

/-- Lists or changes what is done about signals. -/
def trap : Routine := fun arguments => do
  let operands ← operandsOf arguments
  match operands with
  | [] => listTraps
  | first :: rest =>
    let isNumber := (Signal.ofNumber? first).isSome
    let (action?, signals) :=
      if rest.isEmpty || isNumber then (none, operands)
      else if first = [ascii '-'] then (none, rest)
      else (some first, rest)
    for name in signals do
      match Signal.ofText? 0 name with
      | some signal => arrange action? signal
      | none =>
        Work.emit 2 (Bytes.ofString "trap: " ++ name ++ Bytes.ofString ": bad trap\n")
        return 1
    return 0

/-- Permission bits as letters. -/
def modeLetters (mode : Nat) : String :=
  let group (who : String) (bits : Nat) : String :=
    who ++ "=" ++ (if bits &&& 4 ≠ 0 then "r" else "") ++ (if bits &&& 2 ≠ 0 then "w" else "")
      ++ (if bits &&& 1 ≠ 0 then "x" else "")
  group "u" (mode >>> 6 &&& 7) ++ "," ++ group "g" (mode >>> 3 &&& 7) ++ ","
    ++ group "o" (mode &&& 7)

/-- Tells or changes the permissions that new files do not get. -/
def mask : Routine := fun arguments => do
  let (given, operands) ← optionsOf "S" "" arguments
  let before ← Work.ask (Kernel.Request.look fun process _ => process.umask)
  let set (mask : Nat) : Work Nat := do
    Work.ask (Kernel.Request.alterSelf fun process => { process with umask := mask })
    return 0
  match operands with
  | [] =>
    let digits := Nat.toDigits 8 before
    let octal := String.ofList (List.replicate (4 - digits.length) '0' ++ digits)
    let text := if given.isEmpty then octal else modeLetters (0o777 - before)
    Work.put (Bytes.ofString (text ++ "\n"))
    return 0
  | operand :: _ =>
    if operand.head?.any Text.Ascii.isDigit then
      if operand.all Text.Ascii.isOctal then set (Text.Ascii.value 8 operand &&& 0o777)
      else Work.failNumber operand
    else
      match Mode.changed? operand 0 false (0o777 - before) with
      | some mode => set (0o777 - (mode &&& 0o777))
      | none => Work.fail (Bytes.ofString "Illegal mode: " ++ operand)

/-- How far the means of processes go. -/
def limits : List (Char × String) :=
  [('t', "unlimited"), ('f', "unlimited"), ('d', "unlimited"), ('s', "8192"), ('c', "0"),
    ('m', "unlimited"), ('l', "8192"), ('p', "unlimited"), ('n', "1048576"), ('v', "unlimited"),
    ('w', "unlimited"), ('r', "0")]

/-- Tells how far the means of processes go. -/
def limit : Routine := fun arguments => do
  let (given, operands) ← optionsOf "HSatfdscmlpnvwr" "" arguments
  let letter := ((given.filter fun entry => entry.1 ≠ 'H' && entry.1 ≠ 'S').getLast?.map
    Prod.fst).getD 'f'
  if operands.isEmpty then
    Work.put (Bytes.ofString (((limits.lookup letter).getD "unlimited") ++ "\n"))
  return 0

/-- Tells where programs were found, looks for some, or forgets all. The shell's own commands are not
looked for. -/
def hash (isOwn : Bytes → Bool) : Routine := fun arguments => do
  let (given, operands) ← optionsOf "r" "" arguments
  if !given.isEmpty then
    modify fun state => { state with found := [] }
    return 0
  else if operands.isEmpty then
    let state ← get
    let place (name : Bytes) : Nat := State.shelf State.programShelves name
    let sorted := state.found.mergeSort fun entry other => place entry.1 ≤ place other.1
    for (name, index) in sorted do
      Work.put (((candidates state.places name)[index]?.getD name) ++ [0x0A])
    return 0
  else
    let mut status := 0
    for name in operands do
      modify fun state => { state with found := state.found.filter fun entry => entry.1 ≠ name }
      unless isOwn name || (← get).functions.any (·.1 = name) do
        match ← findProgram name none with
        | .nowhere fault =>
          Work.report (name ++ Bytes.ofString (": " ++ startFailure fault))
          status := 1
        | _ => pure ()
    return status

/-- Fails as there are no jobs that could be put in front or behind. -/
def resume : Routine := fun arguments => do
  let operands ← operandsOf arguments
  let word := operands.head?.getD [ascii '%']
  let _ ← Work.jobOf word
  let shown := operands.head?.getD (Bytes.ofString "(null)")
  Work.fail (Bytes.ofString "job " ++ shown ++ Bytes.ofString " not created under job control")

/-- Tells how much time has been used. -/
def times : Routine := fun _ => do
  Work.put (Bytes.ofString "0m0.000000s 0m0.000000s\n0m0.000000s 0m0.000000s\n")
  return 0

def verdict (status : Nat) : Routine := fun _ => return status

/-- What a command of the shell does. -/
inductive Action where
  | routine (routine : Routine)
  /-- Runs its arguments as commands. -/
  | evaluate
  /-- Runs the commands in a file. -/
  | source
  /-- Lets a program take the place of the shell. -/
  | replace
  /-- Tells what a name means. -/
  | describe
  /-- Runs another command, even where a function has its name. -/
  | command

/-- A command of the shell. -/
structure Entry where
  action : Action
  /-- Assignments in front of it stay, and where it goes wrong the script ends. -/
  isSpecial : Bool
  /-- It comes before any program of its name. -/
  isRegular : Bool
  /-- Its arguments can be assignments. -/
  takesAssignments : Bool

/-- A special command. -/
def special (routine : Routine) : Entry := ⟨.routine routine, true, true, false⟩

/-- A command that is like a program. -/
def usual (routine : Routine) : Entry := ⟨.routine routine, false, true, false⟩

/-- The commands by their names, apart from the one that has to know them all. -/
def plainEntries : List (String × Entry) :=
  [(".", ⟨.source, true, true, false⟩), (":", special (verdict 0)),
    ("[", ⟨.routine bracket, false, false, false⟩), ("alias", ⟨.routine aliases, false, true, true⟩),
    ("bg", usual resume), ("break", special (endRound .leave)), ("cd", usual Directory.change),
    ("chdir", usual Directory.change),
    ("command", ⟨.command, false, true, false⟩), ("continue", special (endRound .again)),
    ("echo", ⟨.routine echo, false, false, false⟩), ("eval", ⟨.evaluate, true, true, false⟩),
    ("exec", ⟨.replace, true, true, false⟩), ("exit", special exit),
    ("export", ⟨.routine exportAll, true, true, true⟩), ("false", usual (verdict 1)),
    ("fg", usual resume), ("getopts", usual getOption),
    ("jobs", usual Work.listJobs), ("kill", usual kill),
    ("local", ⟨.routine localAll, true, true, true⟩),
    ("printf", ⟨.routine printf, false, false, false⟩), ("pwd", usual Directory.tell),
    ("read", usual Input.read), ("readonly", ⟨.routine protectAll, true, true, true⟩),
    ("return", special goBack), ("set", special setAll), ("shift", special shift),
    ("test", ⟨.routine decide, false, false, false⟩), ("times", special times),
    ("trap", special trap), ("true", usual (verdict 0)), ("type", ⟨.describe, false, true, false⟩),
    ("ulimit", ⟨.routine limit, false, false, false⟩), ("umask", usual mask),
    ("unalias", usual unaliases), ("unset", special unsetAll), ("wait", usual Work.waitFor)]

/-- Tells whether a name is one of the shell's own commands. -/
def isOwn (name : Bytes) : Bool :=
  name = Bytes.ofString "hash" || plainEntries.any fun entry => Bytes.ofString entry.1 = name

/-- The commands by their names. -/
def entries : List (String × Entry) := ("hash", usual (hash isOwn)) :: plainEntries

/-- The command of a name. -/
def find? (name : Bytes) : Option Entry :=
  (entries.find? fun entry => Bytes.ofString entry.1 = name).map Prod.snd

end ChangelogSql.Shell.Builtin
