import ChangelogSql.Kernel.Request
import ChangelogSql.Programs.Machine

/-!
What processes do in many steps: writing all of a text, reading to the end,
sleeping, and giving way to a program.
-/

namespace ChangelogSql.Kernel

open Files Programs

/-- The task that a program is when it is called, or why it cannot be started. -/
abbrev Loader := Call → View → Except Fault Task

namespace Activity

/-- Writes all of some bytes. `fuel` bounds how many pieces they are written in. -/
def writeWithin (descriptor : Nat) : Nat → Bytes → Activity (Except Fault Unit)
  | 0, _ => return .error .inputOutput
  | _, [] => return .ok ()
  | fuel + 1, bytes => do
    match ← ask (Request.write descriptor bytes) with
    | .error fault => return .error fault
    | .ok count => writeWithin descriptor fuel (bytes.drop count)

/-- Writes all of some bytes; nothing is written where there are none. -/
def write (descriptor : Nat) (bytes : Bytes) : Activity (Except Fault Unit) :=
  writeWithin descriptor (bytes.length + 1) bytes

/-- How many bytes are read at a time. -/
def portion : Nat := 65536

/-- How many portions are read at most. -/
def portionLimit : Nat := 100000

/-- Reads to the end; `before` has been read, the last portion first. -/
def readWithin (descriptor : Nat) : Nat → List Bytes → Activity (Except Fault Bytes)
  | 0, before => return .ok before.reverse.flatten
  | fuel + 1, before => do
    match ← ask (Request.read descriptor portion) with
    | .error fault => return .error fault
    | .ok [] => return .ok before.reverse.flatten
    | .ok bytes => readWithin descriptor fuel (bytes :: before)

/-- Reads to the end. -/
def readAll (descriptor : Nat) : Activity (Except Fault Bytes) :=
  readWithin descriptor portionLimit []

/-- Sleeps for a number of nanoseconds, unless a signal comes. -/
def sleep (duration : Nat) : Activity (Except Fault Unit) := do
  let time ← ask (Request.look fun _ system => system.disk.clock)
  ask (Request.sleepUntil (time + duration))

/-- How long it takes until a program runs, in nanoseconds. -/
def startTime : Nat := 800000

/-- The system after a program took the place of a process: private descriptors are closed, and
nobody is told of signals any more. -/
def replaced (system : System) (number : Nat) : System :=
  system.alterProcess number fun process =>
    { process with
      descriptors := process.descriptors.filter fun entry => !entry.2.isPrivate
      caught := [] }

/-- Lets a program take the place of the process; there is an answer only where it cannot be
started. -/
def execute (loader : Loader) (call : Call) : Activity Fault := fun next =>
  .request fun number system =>
    match system.process? number with
    | none => .waiting
    | some process =>
      match loader call (process.view system.disk) with
      | .error fault => .done (next fault) system
      | .ok task =>
        .done (ask (Request.sleepUntil (system.disk.clock + startTime)) fun _ => task)
          (replaced system number)

end Activity

end ChangelogSql.Kernel
