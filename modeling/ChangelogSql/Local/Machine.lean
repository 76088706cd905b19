import ChangelogSql.Kernel.Schedule
import ChangelogSql.Local.Program

/-!
The disk of a machine on which nothing has been done yet.
-/

namespace ChangelogSql.Local

open Files

/-- Something that stands on a fresh disk. -/
inductive Fixture where
  | directory (path : String)
  | link (path target : String)
  | device (path : String) (device : Device)
  | text (path text : String)
  | broken (path : String) (fault : Fault)
  | program (path name : String)

/-- The place at the end of an absolute path. -/
def locationOf (path : String) : Location :=
  (Text.splitAt separator (Bytes.ofString path)).filterMap Name.ofBytes?

/-- The disk with something more on it, whose directory exists. -/
def place (disk : Disk) : Fixture → Disk
  | .directory path => disk.put (locationOf path) (.directory programMode .nil) rfl
  | .link path target => disk.put (locationOf path) (.link (Path.ofString target)) rfl
  | .device path device => disk.put (locationOf path) (.device device) rfl
  | .text path text => disk.create (locationOf path) (.bytes (Bytes.ofString text)) plainMode
  | .broken path fault => disk.create (locationOf path) (.unreadable fault) plainMode
  | .program path name => disk.create (locationOf path) (.program name) programMode

/-- The directories of a fresh disk, and what stands in them beside the programs. The memory of the
process that reads it is a file whose reading fails. -/
def fixtures : List Fixture :=
  [.directory "/boot", .directory "/dev", .directory "/etc", .directory "/home", .directory "/media",
    .directory "/mnt", .directory "/opt", .directory "/proc", .directory "/root", .directory "/run",
    .directory "/srv", .directory "/sys", .directory "/tmp", .directory "/usr", .directory "/var",
    .directory "/usr/bin", .directory "/usr/games", .directory "/usr/include", .directory "/usr/lib",
    .directory "/usr/lib64", .directory "/usr/local", .directory "/usr/sbin",
    .directory "/usr/share", .directory "/usr/src", .directory "/usr/local/bin",
    .directory "/usr/local/lib", .directory "/usr/local/sbin", .directory "/var/lib",
    .directory "/var/log", .directory "/var/tmp", .directory "/proc/self",
    .link "/bin" "usr/bin", .link "/lib" "usr/lib", .link "/lib64" "usr/lib64",
    .link "/sbin" "usr/sbin", .link "/dev/fd" "/proc/self/fd", .link "/dev/stdin" "/proc/self/fd/0",
    .link "/dev/stdout" "/proc/self/fd/1", .link "/dev/stderr" "/proc/self/fd/2",
    .device "/dev/null" .nothing, .device "/dev/zero" .zeros, .device "/dev/full" .full,
    .device "/dev/tty" .terminal, .directory "/proc/self/fd",
    .broken "/proc/self/mem" .inputOutput,
    .text "/etc/passwd" "root:x:0:0:root:/root:/bin/bash\n", .text "/etc/group" "root:x:0:\n",
    .text "/etc/hostname" "localhost\n"]
  ++ (List.range 10).map fun number =>
    .device ("/proc/self/fd/" ++ toString number) (.descriptor number)

/-- A disk with the programs of the machine. -/
def freshDisk : Disk :=
  let programs := Program.all.map fun entry => Fixture.program ("/usr/bin/" ++ entry.1) entry.1
  (fixtures ++ programs).foldl place (.empty 1700000000000000000)

end ChangelogSql.Local

/-!
A machine whose programs are its own and scripts. A script names in its first
line the program that runs it. What a program leaves behind it when it ends goes
on only as long as somebody waits for its output.
-/

namespace ChangelogSql.Local

open Files Programs Kernel

/-- How much of a file is looked at to find out what runs it. -/
def headLength : Nat := 256

/-- The program that a script names and the argument it names for it. -/
def interpreter? (content : Bytes) : Option (Path × Option Bytes) :=
  match content.take headLength with
  | 0x23 :: 0x21 :: rest =>
    let isBlank (b : UInt8) : Bool := b = 0x20 || b = 0x09
    let line := (rest.takeWhile fun b => b ≠ 0x0A && b ≠ 0).dropWhile isBlank
    let line := (line.reverse.dropWhile isBlank).reverse
    let program := line.takeWhile fun b => !isBlank b
    let argument := (line.drop program.length).dropWhile isBlank
    if program = [] then none else some (⟨program⟩, if argument = [] then none else some argument)
  | _ => none

/-- The longest text that a program can be given, with the zero behind it. -/
def textLimit : Nat := 131072

/-- How much a program can be given in all. -/
def roomLimit : Nat := 2097152

/-- Everything that a program is given has room. -/
def hasRoom (call : Call) : Bool :=
  let texts := call.name :: call.arguments
    ++ call.environment.map fun entry => entry.1 ++ 0x3D :: entry.2
  let lengths := texts.map fun text => text.length + 1
  lengths.all (· ≤ textLimit) && Numeral.total lengths + 8 * lengths.length < roomLimit

/-- The program that a call comes to in the end, and what that is called with. A script is an argument
of the program it names; `chain` bounds how many scripts may name one another. -/
def resolve (view : View) : Nat → Call → Except Fault (Program × Call)
  | 0, _ => .error .tooManyLinks
  | chain + 1, call => do
    match ← view.stat call.file with
    | .file number =>
      match view.disk.file? number with
      | none => throw .inputOutput
      | some file =>
        if !isRunnable file.mode then throw .permissionDenied
        match file.content with
        | .program name =>
          match Program.find? name with
          | some program => return (program, call)
          | none => throw .badExecutable
        | .unreadable fault => throw fault
        | .bytes content =>
          match interpreter? content with
          | some (program, argument?) =>
            let arguments := argument?.toList ++ call.file.bytes :: call.arguments
            resolve view chain { call with file := program, name := program.bytes, arguments }
          | none => throw .badExecutable
    | _ => throw .permissionDenied

/-- How many scripts may name one another. -/
def chainLimit : Nat := 6

/-- The task that a program is. `depth` bounds how often one program can take the place of another. -/
def load : Nat → Loader
  | 0, _, _ => .error .noMemory
  | depth + 1, call, view => do
    if !hasRoom call then throw .tooManyArguments
    let (program, call) ← resolve view chainLimit call
    return program (load depth) call

/-- How often one program can take the place of another. -/
def depthLimit : Nat := 100000

/-- The number of the first process; the one before it started it and waits. -/
def firstProcess : Nat := 1000

/-- A system in which a process waits for one that it has started, whose input is empty and whose
output goes to the streams of the run. -/
def start (disk : Disk) (cwd : Location) : System × Process :=
  let input : Opening := ⟨.device .nothing, 0, false, true, false⟩
  let stream (stream : Stream) : Opening := ⟨.stream stream, 0, false, false, true⟩
  let parent : Process :=
    { number := firstProcess - 1, parent := 1, cwd, umask := 0o022, descriptors := []
      ignored := [], caught := [], pending := [], ended? := none }
  let process : Process :=
    { parent with
      number := firstProcess, parent := parent.number
      descriptors := (List.range 3).map fun number => (number, ⟨number, false⟩) }
  ({ disk, openings := #[input, stream .out, stream .err], pipes := #[], processes := [parent]
     lastProcess := firstProcess, written := [] }, process)

/-- The first process has ended, and nobody can write any more whose output is waited for. -/
def isOver (awaitsOutput : Bool) (system : System) : Bool :=
  !system.isAlive firstProcess && !(awaitsOutput && system.hasStream)

/-- How a process ended; one that has not ended is taken away. -/
def statusOf (system : System) : Status :=
  ((system.process? firstProcess).bind Process.ended?).getD (.killed 9)

/-- Runs a task to its end. -/
def complete {σ : Type} (task : Task) (awaitsOutput : Bool) (disk : Disk) (cwd : Location)
    (memory : σ) : Finished σ :=
  let (system, process) := start disk cwd
  let schedule : Schedule := ⟨system, [], [], false, none⟩
  let after := ((schedule.add process task).run (isOver awaitsOutput) Schedule.patience
    Schedule.turnLength).system
  ⟨statusOf after, after.written.reverse, after.disk, memory⟩

/-- The view after a directory was entered. -/
def enter (view : View) (directory : Path) : Except Fault View := do
  match ← view.stat directory with
  | .directory .. => return { view with cwd := ← view.locate directory }
  | _ => throw .notDirectory

/-- The machine with an environment for its programs. Nothing with a NUL byte in it is passed on,
and the directory is entered before the program is looked at. -/
def machine {σ : Type} (environment : Environment) : Machine σ where
  searchPath := environment.searchPath
  start invocation view memory := do
    let directory? := invocation.directory?
    let texts := invocation.program.bytes :: invocation.name
      :: (directory?.map Path.bytes).getD [] :: invocation.arguments
    if texts.any (·.contains 0) then throw .nulInArgument
    let view ←
      match directory? with
      | none => pure view
      | some directory => enter view directory
    let call : Call :=
      ⟨invocation.program, invocation.name, invocation.arguments, environment⟩
    let task ← load depthLimit call view
    return complete task invocation.awaitsOutput view.disk view.cwd memory

end ChangelogSql.Local
