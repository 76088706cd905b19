import ChangelogSql.Files.Change
import ChangelogSql.Programs.Status
import ChangelogSql.World

/-!
Processes and what they share: a disk, open files with their places in them,
and pipes. A descriptor of a process is a number for something that is open;
several descriptors, also of several processes, can stand for the same opening
and then share its place.
-/

namespace ChangelogSql.Kernel

open Files Programs

/-- What something open leads to. -/
inductive Target where
  /-- A stream of the run itself. -/
  | stream (stream : Stream)
  | file (number : Nat)
  | directory (location : Location)
  | device (device : Device)
  | pipe (number : Nat)
  deriving DecidableEq

/-- Something open: what it leads to, the place in it, and what may be done. -/
structure Opening where
  target : Target
  offset : Nat
  appends : Bool
  reads : Bool
  writes : Bool
  deriving DecidableEq

/-- What has been written to a pipe and not yet read. -/
structure Pipe where
  bytes : Bytes
  /-- A reader has opened it by its name, and no writer yet. -/
  awaitsWriter : Bool
  deriving DecidableEq

/-- What a number stands for in a process. -/
structure Descriptor where
  opening : Nat
  /-- A program that takes the place of this one does not get it. -/
  isPrivate : Bool
  deriving DecidableEq

/-- A process. -/
structure Process where
  number : Nat
  parent : Nat
  cwd : Location
  /-- The permission bits that new files do not get. -/
  umask : Nat
  descriptors : List (Nat × Descriptor)
  /-- Signals without effect. -/
  ignored : List Nat
  /-- Signals that the process is told of instead of being ended by them. -/
  caught : List Nat
  /-- Signals that it has not been told of yet. -/
  pending : List Nat
  /-- How it ended, until its parent knows. -/
  ended? : Option Status

/-- Everything that processes share. -/
structure System where
  disk : Disk
  openings : Array Opening
  pipes : Array Pipe
  processes : List Process
  lastProcess : Nat
  /-- What has been written to the streams of the run, the last first. -/
  written : List (Stream × Bytes)

/-- The bits of a mode that a mask leaves. -/
def masked (mode umask : Nat) : Nat :=
  mode - (mode &&& umask)

namespace Process

/-- What the process sees of a disk. -/
def view (process : Process) (disk : Disk) : View :=
  ⟨disk, process.cwd⟩

/-- The lowest number from `least` on that stands for nothing. -/
def free (process : Process) (least : Nat) : Nat :=
  let isFree (number : Nat) : Bool := (process.descriptors.lookup number).isNone
  ((List.range (process.descriptors.length + 1)).map (least + ·)).find? isFree |>.getD least

/-- The process with a number standing for something. -/
def bind (process : Process) (number : Nat) (descriptor : Descriptor) : Process :=
  { process with
    descriptors := (number, descriptor) :: process.descriptors.filter (·.1 ≠ number) }

/-- The process with a number standing for nothing. -/
def unbind (process : Process) (number : Nat) : Process :=
  { process with descriptors := process.descriptors.filter (·.1 ≠ number) }

/-- A signal has come that the process wants to be told of. -/
def isInterrupted (process : Process) : Bool :=
  !process.pending.isEmpty

end Process

namespace System

/-- The process with a number. -/
def process? (system : System) (number : Nat) : Option Process :=
  system.processes.find? (·.number = number)

/-- A process that has not ended. -/
def isAlive (system : System) (number : Nat) : Bool :=
  match system.process? number with
  | some process => process.ended?.isNone
  | none => false

/-- The system with a process changed. -/
def alterProcess (system : System) (number : Nat) (change : Process → Process) : System :=
  { system with
    processes := system.processes.map fun process =>
      if process.number = number then change process else process }

/-- What a descriptor of a process leads to. -/
def opening? (system : System) (process : Process) (number : Nat) : Option Opening := do
  let descriptor ← process.descriptors.lookup number
  system.openings[descriptor.opening]?

/-- Someone has something open that a test accepts. -/
def hasOpen (system : System) (test : Opening → Bool) : Bool :=
  system.processes.any fun process =>
    process.descriptors.any fun entry => system.openings[entry.2.opening]?.any test

/-- Someone can still write to a pipe. -/
def hasWriter (system : System) (pipe : Nat) : Bool :=
  system.hasOpen fun opening => opening.writes && opening.target = .pipe pipe

/-- Someone can still read from a pipe. -/
def hasReader (system : System) (pipe : Nat) : Bool :=
  system.hasOpen fun opening => opening.reads && opening.target = .pipe pipe

/-- Someone can still write to a stream of the run. -/
def hasStream (system : System) : Bool :=
  system.hasOpen fun opening =>
    match opening.target with
    | .stream _ => opening.writes
    | _ => false

/-- The system with one more opening, and its place. -/
def addOpening (system : System) (opening : Opening) : System × Nat :=
  ({ system with openings := system.openings.push opening }, system.openings.size)

/-- The number of the signal that says that a child has ended. -/
def childSignal : Nat := 17

/-- Signals that leave a process alone that has made no arrangements. -/
def harmlessSignals : List Nat :=
  [17, 18, 19, 20, 21, 22, 23, 28]

/-- The system with a signal waiting for a process that wants to be told of it. -/
def notify (system : System) (number signal : Nat) : System :=
  system.alterProcess number fun process =>
    if process.caught.contains signal && !process.pending.contains signal then
      { process with pending := process.pending ++ [signal] }
    else process

/-- The system after a process has ended. Its children belong to nobody then, and what nobody waits
for is forgotten. -/
def finish (system : System) (number : Nat) (status : Status) : System :=
  let parent := (system.process? number).map (·.parent) |>.getD 0
  let isOrphan := parent ≠ 0 && !system.isAlive parent
  let processes := system.processes.filterMap fun process =>
    if process.number = number then
      if isOrphan then none
      else some { process with ended? := some status, descriptors := [], pending := [] }
    else if process.parent = number && process.ended?.isSome then none
    else some process
  { system with processes }.notify parent childSignal

/-- The system after a signal was sent to a process. -/
def deliver (system : System) (process : Process) (signal : Nat) : System :=
  if signal = 0 || process.ended?.isSome then system
  else if signal = 9 then system.finish process.number (.killed signal)
  else if process.ignored.contains signal then system
  else if process.caught.contains signal then system.notify process.number signal
  else if harmlessSignals.contains signal then system
  else system.finish process.number (.killed signal)

end System

/-- What has become of a request. -/
inductive Progress (α : Type) where
  | done (answer : α) (system : System)
  /-- Something else has to happen first. -/
  | waiting
  /-- It will be done at a time. -/
  | asleep (wake : Nat)

/-- What a process asks of the system, in one step that nothing comes between. -/
abbrev Request (α : Type) := Nat → System → Progress α

/-- What a process is going to do: it asks for something and goes on with the answer, becomes two, or
ends. -/
inductive Task where
  | request (request : Nat → System → Progress Task)
  | fork (child : Task) (next : Nat → Task)
  | exit (code : UInt8)

/-- A part of what a process does, which is complete when it is known what follows. -/
def Activity (α : Type) := (α → Task) → Task

namespace Activity

variable {α β : Type}

instance : Monad Activity where
  pure a := fun next => next a
  bind activity rest := fun next => activity fun a => rest a next

/-- Asks the system for something. -/
def ask (request : Request α) : Activity α := fun next =>
  .request fun number system =>
    match request number system with
    | .done answer system => .done (next answer) system
    | .waiting => .waiting
    | .asleep wake => .asleep wake

/-- Ends the process. -/
def exit (code : UInt8) : Activity α := fun _ =>
  .exit code

/-- Begins a process that does something else, and gives its number. -/
def fork (child : Task) : Activity Nat := fun next =>
  .fork child next

/-- The whole of a process. -/
def task (activity : Activity Unit) : Task :=
  activity fun _ => .exit 0

end Activity

end ChangelogSql.Kernel
