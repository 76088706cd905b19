import ChangelogSql.Utility.Records.Run

/-!
The program that goes through records: its options, and the order in which the
parts of what it is given are done.
-/

namespace ChangelogSql.Utility.Records

open Text (ascii)
open Files Programs Kernel
open Numeral

namespace Work

/-- How many steps can follow one another at most. -/
def patience : Nat := twoTo 60

/-- Something is done with the record. -/
def isMeant (host : Host) : Pattern → Work Bool
  | .always => return true
  | .when condition => return (← value host patience condition).isTrue
  | .between number first last => do
    let isActive := (← get).active[number]?.getD false
    let begins ← if isActive then pure true else do
      pure (← value host patience first).isTrue
    if begins then
      let ends := (← value host patience last).isTrue
      modify fun memory => { memory with active := memory.active.setIfInBounds number (!ends) }
    return begins

/-- Does what the rules say about the record. -/
def applyRules (host : Host) : List Rule → Work Unit
  | [] => pure ()
  | rule :: rest => do
    if ← isMeant host rule.pattern then statement host patience rule.action
    applyRules host rest

/-- Does what the rules say about every record that is left. `fuel` bounds how many there are. -/
def goThrough (host : Host) (rules : List Rule) : Nat → Work Unit
  | 0 => pure ()
  | fuel + 1 => do
    match ← nextRecord argumentLimit with
    | none => pure ()
    | some bytes =>
      setRecord bytes false
      tryCatch (applyRules host rules) fun jump =>
        match jump with
        | .next => pure ()
        | .nextFile => closeInput
        | jump => throw jump
      goThrough host rules fuel

/-- Does statements one after the other; the answer is whether the program goes on. -/
def part (work : Work Unit) : Work Bool :=
  tryCatch
    (do
      work
      return true)
    fun _ => return false

/-- Does all that a program says. -/
def wholeProgram (host : Host) : Work Unit := do
  let script := (← get).script
  let _ ← part do
    for beginning in script.beginnings do
      statement host patience beginning
    if !script.rules.isEmpty || !script.endings.isEmpty then
      goThrough host script.rules patience
  let _ ← part do
    for ending in script.endings do
      statement host patience ending
  closeAll

end Work

/-- What is said behind options. -/
structure Settings where
  /-- Programs in files, the last first. -/
  files : List Bytes
  separator? : Option Bytes
  /-- Variables with their values, the last first. -/
  assignments : List (Bytes × Bytes)
  operands : List Bytes

/-- The value of an option: what stands behind its letter, or the next argument. -/
def optionValue (letter : UInt8) (attached : Bytes) (rest : List Bytes) :
    Tool (Bytes × List Bytes) := do
  if attached ≠ [] then return (attached, rest)
  else
    match rest with
    | value :: rest => return (value, rest)
    | [] =>
      Tool.failWith 2 (Bytes.ofString "option -" ++ [letter] ++ Bytes.ofString " lacks argument")

/-- Says which version this is. -/
def tellVersion : Tool Unit := do
  Tool.putLine (Bytes.ofString "mawk 1.3.4 20200120")
  Tool.stop

/-- Reads options up to the first argument that is none. `fuel` bounds how many there are. -/
def settings : Nat → List Bytes → Settings → Tool Settings
  | 0, _, settings => return settings
  | _, [], settings => return settings
  | fuel + 1, argument :: rest, given => do
    match argument with
    | [0x2D, 0x2D] => return { given with operands := rest }
    | 0x2D :: 0x2D :: word =>
      if (Bytes.ofString "version").isPrefixOf word then tellVersion
      else Tool.failWith 2 (Bytes.ofString "not an option: " ++ argument)
      settings fuel rest given
    | 0x2D :: letter :: attached =>
      if letter = ascii 'f' then
        let (file, rest) ← optionValue letter attached rest
        settings fuel rest { given with files := file :: given.files }
      else if letter = ascii 'F' then
        let (text, rest) ← optionValue letter attached rest
        settings fuel rest { given with separator? := some (unescaped (text.length + 1) text) }
      else if letter = ascii 'v' then
        let (text, rest) ← optionValue letter attached rest
        match Work.assignment? text with
        | some entry => settings fuel rest { given with assignments := entry :: given.assignments }
        | none => Tool.failWith 2 (Bytes.ofString "improper assignment: -v " ++ text)
      else if letter = ascii 'W' then
        let (text, rest) ← optionValue letter attached rest
        if (Bytes.ofString "v").isPrefixOf text then tellVersion
        settings fuel rest given
      else Tool.failWith 2 (Bytes.ofString "not an option: " ++ argument)
    | _ => return { given with operands := argument :: rest }

/-- How the program is called. -/
def usage : Bytes :=
  Bytes.ofString "Usage: mawk [Options] [Program] [file ...]\n"

/-- Reads a program in a file. -/
def programIn (file : Bytes) : Tool Bytes := do
  match ← Tool.openInput file with
  | .error fault =>
    Tool.failWith 2 (Bytes.ofString "cannot open \"" ++ file
      ++ Bytes.ofString ("\" (" ++ fault.reason ++ ")"))
  | .ok descriptor =>
    match ← Tool.readAll descriptor with
    | .ok bytes =>
      Tool.closeInput descriptor
      return bytes
    | .error fault =>
      Tool.failWith 2 (Bytes.ofString ("read error (" ++ fault.reason ++ ")"))

/-- The program that is given, the name of its file, and the arguments behind it. -/
def program (given : Settings) : Tool (Bytes × Option Bytes × List Bytes) := do
  match given.files.reverse with
  | [] =>
    match given.operands with
    | [] =>
      Tool.emit usage
      Tool.setCode 2
      Tool.stop
    | text :: arguments => return (text, none, arguments)
  | file :: others =>
    let mut text ← programIn file
    for file in others do
      text := text ++ 0x0A :: (← programIn file)
    return (text, some file, given.operands)

/-- The table of texts under the numbers from zero on. -/
def numbered (texts : List Bytes) : Table :=
  (texts.foldl (fun (entry : Table × Int) text =>
    (entry.1.set (.number entry.2) (.given text), entry.2 + 1)) (Table.empty, 0)).1

/-- The table of an environment. -/
def environmentTable (environment : Environment) : Table :=
  environment.foldl (fun table entry => table.set (.text entry.1) (.given entry.2)) Table.empty

/-- The value that a variable has at first. -/
def firstValue (count : Nat) : Special → Slot
  | .fieldCount | .recordCount | .fileRecordCount => .single (.real .zero)
  | .fieldSeparator | .outputSeparator => .single (.text [ascii ' '])
  | .recordSeparator | .outputEnd => .single (.text [0x0A])
  | .keySeparator => .single (.text [0x1C])
  | .keyFormat | .outputFormat => .single (.text (Bytes.ofString "%.6g"))
  | .argumentCount => .single (.real (.ofWhole count))
  | .environment => .table 0
  | .arguments => .table 1
  | _ => .single .missing

/-- What is kept when a program begins. -/
def Memory.start (script : Script) (environment : Environment) (arguments : List Bytes) :
    Memory where
  script := script
  globals :=
    ((List.range script.globals.size).map fun index =>
      match Special.ofIndex? index with
      | some which => firstValue arguments.length which
      | none => .single .missing).toArray
  locals := #[]
  tables := #[environmentTable environment, numbered arguments]
  record := []
  fields? := none
  isStale := false
  isMade := false
  linesPart := false
  streams := []
  matchers := []
  active := Array.replicate script.ranges false
  seed := 1
  generator := Work.nextChance 1
  code := 0
  depth := 0
  input? := none
  argument := 1
  hasFile := false
  isOver := false

/-- Goes through records as a program says that is the first argument or stands in files. -/
def goThroughRecords (loader : Loader) (call : Call) : Tool Unit := do
  let name := call.name.drop (call.name.length - (call.name.reverse.takeWhile (· ≠ separator)).length)
  modify fun desk => { desk with name }
  Tool.whenUnheard fun reason => (2, [s!"close failed on file \"/dev/stdout\" ({reason})"])
  let given ← settings (call.arguments.length + 1) call.arguments ⟨[], none, [], []⟩
  let (text, file?, arguments) ← program given
  match Grammar.script text with
  | .error fault =>
    let place :=
      match file? with
      | some file => file ++ Bytes.ofString ": "
      | none => []
    for message in fault.messages do
      Tool.warn (place ++ message)
    Tool.setCode 2
  | .ok script =>
    let host : Work.Host := ⟨loader, call.environment⟩
    let work : Work Unit := do
      match given.separator? with
      | some text => Work.setSpecial .fieldSeparator (.text text)
      | none => pure ()
      for (name, value) in given.assignments.reverse do
        Work.assignNamed name value
      Work.wholeProgram host
    let (_, memory) ← (ExceptT.run work).run
      (Memory.start script call.environment (name :: arguments))
    Tool.setCode (UInt8.ofNat memory.code)

end ChangelogSql.Utility.Records
