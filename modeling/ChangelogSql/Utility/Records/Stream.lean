import ChangelogSql.Utility.Records.Memory
import ChangelogSql.Utility.Records.Word

/-!
Where records come from and where results go: the arguments, one file after the
other, files by name, and commands. What is put out is held back until there is
enough of it or something else has to see it.
-/

namespace ChangelogSql.Utility.Records.Work

open Text (ascii)
open Files Programs Kernel
open Numeral

/-- What starts other programs, and how this one was called. -/
structure Host where
  loader : Loader
  environment : Environment

/-- The shell as a call of a command. -/
def shell (host : Host) (command : Bytes) : Tool Files.Fault :=
  Tool.replaceBy host.loader host.environment (Bytes.ofString "/bin/sh") (Bytes.ofString "sh")
    [Bytes.ofString "-c", command]

/-- Writes what a stream holds back. -/
def flushStream (stream : Stream) : Work Unit := do
  let bytes := stream.held.reverse.flatten
  if bytes ≠ [] then
    let _ ← tool (Tool.perform (Activity.write stream.descriptor bytes))

/-- Writes everything that is held back. -/
def flushAll : Work Unit := do
  for stream in (← get).streams do
    flushStream stream
  modify fun memory =>
    { memory with
      streams := memory.streams.map fun stream => { stream with held := [], size := 0 } }
  tool Tool.flush

/-- A process that a command runs in, on its own. -/
def childTask (host : Host) (prepare : Tool Unit) (command : Bytes) : Tool Task := do
  let work : Tool Unit := do
    prepare
    let _ ← shell host command
    Tool.stop
  let desk ← get
  let whole : Activity Unit := do
    let _ ← StateT.run (ExceptT.run work) { desk with held := [], size := 0 }
    Activity.exit 127
  return whole.task

/-- Lets programs that are started not see a descriptor. -/
def hide (descriptor : Nat) : Tool Unit :=
  Tool.ask (Kernel.Request.alterSelf fun process =>
    match process.descriptors.lookup descriptor with
    | some entry => process.bind descriptor { entry with isPrivate := true }
    | none => process)

/-- Runs a command and waits for its end. -/
def runCommand (host : Host) (command : Bytes) : Work (Option Status) := do
  flushAll
  tool do
    let process ← Tool.perform (Activity.fork (← childTask host (pure ()) command))
    match ← Tool.ask (Kernel.Request.wait (some process) true) with
    | .ok (some (_, status)) => return some status
    | _ => return none

/-- Starts a command, and gives the descriptor for its input or its output. -/
def startCommand (host : Host) (isOutput : Bool) (command : Bytes) : Work (Nat × Nat) := do
  flushAll
  tool do
    let (source, target) ← Tool.ask Kernel.Request.pipe
    hide source
    hide target
    let prepare : Tool Unit := do
      let _ ← Tool.ask (if isOutput then Kernel.Request.duplicate source 0
        else Kernel.Request.duplicate target 1)
    let process ← Tool.perform (Activity.fork (← childTask host prepare command))
    let (kept, left) := if isOutput then (target, source) else (source, target)
    let _ ← Tool.ask (Kernel.Request.close left)
    return (kept, process)

/-- The number that stands for how a command ended. -/
def statusNumber : Option Status → Int
  | some (.exited code) => code.toNat
  | some (.killed signal) => 256 + signal
  | none => -1

/-- Closes a stream; the number that stands for how it ended. -/
def closeStream (stream : Stream) : Work Int := do
  flushStream stream
  tool do
    modify fun desk =>
      { desk with unread := desk.unread.filter fun entry => entry.1 ≠ stream.descriptor }
    let _ ← Tool.ask (Kernel.Request.close stream.descriptor)
    match stream.process? with
    | none => return 0
    | some process =>
      match ← Tool.ask (Kernel.Request.wait (some process) true) with
      | .ok (some (_, status)) => return statusNumber (some status)
      | _ => return -1

/-- Closes everything that is open under a name. -/
def closeName (name : Bytes) : Work Int := do
  let streams := (← get).streams
  let meant := streams.filter fun stream => stream.name = name
  modify fun memory =>
    { memory with streams := streams.filter fun stream => stream.name ≠ name }
  let mut answer : Int := -1
  for stream in meant do
    answer ← closeStream stream
  return answer

/-- Closes everything. -/
def closeAll : Work Unit := do
  for stream in (← get).streams do
    if stream.isOutput then
      let _ ← closeStream stream
  modify fun memory => { memory with streams := [] }

/-- The stream of a name, which goes to the front. -/
def stream? (name : Bytes) (isOutput : Bool) : Work (Option Stream) := do
  let streams := (← get).streams
  let isMeant (stream : Stream) : Bool := stream.name = name && stream.isOutput = isOutput
  match streams.find? isMeant with
  | none => return none
  | some stream =>
    let others := streams.filter fun stream => !isMeant stream
    modify fun memory => { memory with streams := stream :: others }
    return some stream

/-- Adds a stream. -/
def addStream (name : Bytes) (isOutput : Bool) (descriptor : Nat) (process? : Option Nat) :
    Work Stream := do
  let stream : Stream := ⟨name, isOutput, descriptor, process?, [], 0⟩
  modify fun memory => { memory with streams := stream :: memory.streams }
  return stream

/-- Complains that something cannot be opened, and ends the program. -/
def cannotOpen {α : Type} (name : Bytes) (purpose : String) (fault : Files.Fault) : Work α :=
  failWith (Bytes.ofString "cannot open \"" ++ name
    ++ Bytes.ofString ("\"" ++ purpose ++ " (" ++ fault.reason ++ ")"))

/-- Names that stand for what is open already. -/
def standard? (name : Bytes) : Option Nat :=
  if name = Bytes.ofString "/dev/stdout" || name = [ascii '-'] then some 1
  else if name = Bytes.ofString "/dev/stderr" then some 2
  else none

/-- Opens a file by its name. -/
def openFile (purpose : Purpose) (name : Bytes) : Work (Except Files.Fault Nat) :=
  tool (Tool.ask (Kernel.Request.openPath ⟨name⟩ purpose 0o666))

/-- The stream that something is put out to. -/
def outputStream (host : Host) (channel : Channel) (name : Bytes) : Work Stream := do
  match ← stream? name true with
  | some stream => return stream
  | none =>
    match channel with
    | .command =>
      let (descriptor, process) ← startCommand host true name
      addStream name true descriptor (some process)
    | channel =>
      let purpose := if channel = .file then Purpose.writing else Purpose.appending
      match ← openFile purpose name with
      | .ok descriptor =>
        tool (hide descriptor)
        addStream name true descriptor none
      | .error fault => cannotOpen name " for output" fault

/-- Puts something out to a stream, which is the first one. -/
def putTo (stream : Stream) (bytes : Bytes) : Work Unit := do
  let stream := { stream with held := bytes :: stream.held, size := stream.size + bytes.length }
  let kept ←
    if Tool.holdLimit ≤ stream.size then do
      flushStream stream
      pure { stream with held := [], size := 0 }
    else pure stream
  modify fun memory => { memory with streams := kept :: memory.streams.drop 1 }

/-- Puts something out. -/
def put (host : Host) (target? : Option (Channel × Bytes)) (bytes : Bytes) : Work Unit := do
  match target? with
  | none => tool (Tool.put bytes)
  | some (channel, name) =>
    match if channel = .command then none else standard? name with
    | some 1 => tool (Tool.put bytes)
    | some _ => tool (Tool.emit bytes)
    | none => putTo (← outputStream host channel name) bytes

/-- How records end. -/
inductive Ending where
  | byte (b : UInt8)
  | emptyLines
  | matcher (matcher : Matcher)

/-- How the records of the input end. -/
def ending : Work Ending := do
  match ← specialBytes .recordSeparator with
  | [] => return .emptyLines
  | [b] => return .byte b
  | source => return .matcher (← matcherOf source)

/-- Everything that is left of a descriptor, which stays unread. -/
def allOf (descriptor : Nat) : Tool (Except Files.Fault Bytes) := do
  let before ← Tool.unread descriptor
  match ← Tool.readAll descriptor with
  | .error fault => return .error fault
  | .ok bytes =>
    Tool.setUnread descriptor (before ++ bytes)
    return .ok (before ++ bytes)

/-- Where the first empty lines of a text stand. -/
def emptyLinesAt? : Nat → Bytes → Option Nat
  | _, [] => none
  | place, 0x0A :: 0x0A :: _ => some place
  | place, _ :: rest => emptyLinesAt? (place + 1) rest

/-- The next record behind a descriptor. -/
def nextIn (ending : Ending) (descriptor : Nat) : Tool (Except Files.Fault (Option Bytes)) := do
  match ending with
  | .byte b =>
    match ← Tool.recordWithin descriptor b Tool.lineLimit [] with
    | .ok found? => return .ok (found?.map Prod.fst)
    | .error fault => return .error fault
  | .emptyLines =>
    match ← allOf descriptor with
    | .error fault => return .error fault
    | .ok bytes =>
      let bytes := bytes.dropWhile (· = 0x0A)
      if bytes = [] then
        Tool.setUnread descriptor []
        return .ok none
      else
        match emptyLinesAt? 0 bytes with
        | some place =>
          Tool.setUnread descriptor ((bytes.drop place).dropWhile (· = 0x0A))
          return .ok (some (bytes.take place))
        | none =>
          Tool.setUnread descriptor []
          return .ok (some (if bytes.getLast? = some 0x0A then bytes.dropLast else bytes))
  | .matcher matcher =>
    match ← allOf descriptor with
    | .error fault => return .error fault
    | .ok [] => return .ok none
    | .ok bytes =>
      match matcher.searchMore? ⟨bytes.toArray⟩ 0 with
      | some (start, stop) =>
        Tool.setUnread descriptor (bytes.drop stop)
        return .ok (some (bytes.take start))
      | none =>
        Tool.setUnread descriptor []
        return .ok (some bytes)

/-- Counts a record of the input. -/
def countRecord : Work Unit := do
  for which in [Special.recordCount, Special.fileRecordCount] do
    let number := (← special which).toNumber
    setSpecial which (.real (number.plus .one))

/-- The name and the value of an argument that gives a value to a variable. -/
def assignment? (argument : Bytes) : Option (Bytes × Bytes) :=
  let name := argument.takeWhile Text.Ascii.isNameByte
  match argument.drop name.length with
  | 0x3D :: value => if Text.Ascii.isName name then some (name, value) else none
  | _ => none

/-- Gives a value from outside to a variable, if the program has it. -/
def assignNamed (name value : Bytes) : Work Unit := do
  match (← get).script.globals.findIdx? (· = name) with
  | some index => setValueAt (.global index) (.given (unescaped (value.length + 1) value))
  | none => pure ()

/-- The value of an argument. -/
def argumentAt (number : Nat) : Work Bytes := do
  let place := Place.global Special.arguments.index
  let value? ← alterTable place fun table =>
    let (table, found?) := table.find (.number number) false
    (table, found?.map fun index => (table.node index).value)
  bytesOf (value?.getD .missing)

/-- Goes on to the next file among the arguments, or to the input of the program where there is no
file. `fuel` bounds how many arguments there are. Nothing is left where the answer is `false`. -/
def openNext : Nat → Work Bool
  | 0 => return false
  | fuel + 1 => do
    let memory ← get
    let count := (← special .argumentCount).toNumber.truncated
    if (memory.argument : Int) < count then
      let argument ← argumentAt memory.argument
      modify fun memory => { memory with argument := memory.argument + 1 }
      if argument = [] then openNext fuel
      else
        match assignment? argument with
        | some (name, value) =>
          assignNamed name value
          openNext fuel
        | none =>
          modify fun memory => { memory with hasFile := true }
          opened argument
    else if memory.hasFile then return false
    else
      setSpecial .fileName (.given [ascii '-'])
      modify fun memory => { memory with hasFile := true, input? := some 0 }
      return true
where
  /-- Opens an argument. -/
  opened (argument : Bytes) : Work Bool := do
    setSpecial .fileName (.given argument)
    setSpecial .fileRecordCount (.real .zero)
    if argument = [ascii '-'] || argument = Bytes.ofString "/dev/stdin" then
      modify fun memory => { memory with input? := some 0 }
      return true
    else
      match ← openFile .reading argument with
      | .ok descriptor =>
        tool (hide descriptor)
        modify fun memory => { memory with input? := some descriptor }
        return true
      | .error fault => cannotOpen argument "" fault

/-- Closes the file that is being read. -/
def closeInput : Work Unit := do
  match (← get).input? with
  | some descriptor =>
    modify fun memory => { memory with input? := none }
    tool (Tool.closeInput descriptor)
  | none => pure ()

/-- The next record of the input. `fuel` bounds how many files there are. -/
def nextRecord : Nat → Work (Option Bytes)
  | 0 => return none
  | fuel + 1 => do
    if (← get).isOver then return none
    else
      match (← get).input? with
      | none =>
        if ← openNext (fuel + 1) then nextRecord fuel
        else
          modify fun memory => { memory with isOver := true }
          return none
      | some descriptor =>
        let way ← ending
        match ← tool (nextIn way descriptor) with
        | .ok (some bytes) =>
          countRecord
          return some bytes
        | .ok none =>
          closeInput
          nextRecord fuel
        | .error fault =>
          failWith (Bytes.ofString ("read error (" ++ fault.reason ++ ")"))

/-- How many arguments are looked at at most. -/
def argumentLimit : Nat := 100000

/-- The next record of a file or a command; nothing where it cannot be read. -/
def nextOf (host : Host) (isCommand : Bool) (name : Bytes) : Work (Option (Option Bytes)) := do
  let stream? ←
    match ← stream? name false with
    | some stream => pure (some stream)
    | none =>
      if isCommand then do
        let (descriptor, process) ← startCommand host false name
        some <$> addStream name false descriptor (some process)
      else if name = [ascii '-'] || name = Bytes.ofString "/dev/stdin" then
        some <$> addStream name false 0 none
      else
        match ← openFile .reading name with
        | .ok descriptor => do
          tool (hide descriptor)
          some <$> addStream name false descriptor none
        | .error _ => pure none
  match stream? with
  | none => return none
  | some stream =>
    let way ← ending
    match ← tool (nextIn way stream.descriptor) with
    | .ok found? => return some found?
    | .error _ => return none

end ChangelogSql.Utility.Records.Work
