import ChangelogSql.Kernel.Activity
import ChangelogSql.Text.Ascii

/-!
The programs of a machine. A program is a part of what a process does; what it
puts out is held back until there is enough of it or the program ends, and what
it complains about is told at once.
-/

namespace ChangelogSql.Utility

open Text (ascii)
open Files Programs Kernel

/-- What a program has at hand: how it was called, what it holds back, and how it will end. -/
structure Desk where
  name : Bytes
  /-- What is put out later, the last first. -/
  held : List Bytes
  size : Nat
  code : UInt8
  /-- Input that has been read and not yet used. -/
  unread : List (Nat × Bytes)
  /-- How the program ends where nothing can be put out, for a reason, and what it complains about. -/
  unheard : String → UInt8 × List String

/-- A step of a program, which can end it. -/
abbrev Tool (α : Type) := ExceptT Unit (StateT Desk Activity) α

namespace Tool

variable {α : Type}

/-- Asks the system for something. -/
def ask (request : Kernel.Request α) : Tool α :=
  liftM (Activity.ask request : Activity α)

/-- Does something that has nothing to do with the desk. -/
def perform (activity : Activity α) : Tool α :=
  liftM activity

/-- What is seen of the disk. -/
def view : Tool View :=
  ask Kernel.Request.view

/-- Gives other processes a turn. -/
def pause : Tool Unit :=
  ask (Kernel.Request.look fun _ _ => ())

/-- Lets the program end with a code, at the end. -/
def setCode (code : UInt8) : Tool Unit :=
  modify fun desk => { desk with code }

/-- Ends the program. -/
def stop : Tool α :=
  throw ()

/-- Writes to the second stream. -/
def emit (bytes : Bytes) : Tool Unit := do
  let _ ← perform (Activity.write 2 bytes)

/-- Complains, with the name of the program in front. -/
def warn (text : Bytes) : Tool Unit := do
  emit ((← get).name ++ Bytes.ofString ": " ++ text ++ [0x0A])

/-- Complains; the program will fail. -/
def complain (text : Bytes) : Tool Unit := do
  warn text
  setCode 1

/-- Lays down how the program ends where nothing can be put out. -/
def whenUnheard (unheard : String → UInt8 × List String) : Tool Unit :=
  modify fun desk => { desk with unheard }

/-- Ends the program because nothing can be put out. -/
def fallSilent (fault : Fault) : Tool α := do
  let (code, messages) := (← get).unheard fault.reason
  for message in messages do
    warn (Bytes.ofString message)
  setCode code
  stop

/-- Puts out what is held back. Where that is not possible, the program fails at its end. -/
def flush : Tool Unit := do
  let held := (← get).held.reverse.flatten
  modify fun desk => { desk with held := [], size := 0 }
  if held ≠ [] then
    match ← perform (Activity.write 1 held) with
    | .ok () => pure ()
    | .error fault => fallSilent fault

/-- How much is held back at most. -/
def holdLimit : Nat := 4096

/-- Puts something out. -/
def put (bytes : Bytes) : Tool Unit := do
  let desk ← get
  set { desk with held := bytes :: desk.held, size := desk.size + bytes.length }
  if holdLimit ≤ desk.size + bytes.length then
    flush

/-- Puts out a line. -/
def putLine (bytes : Bytes) : Tool Unit :=
  put (bytes ++ [0x0A])

/-- Complains and ends the program. -/
def failWith (code : UInt8) (text : Bytes) : Tool α := do
  warn text
  setCode code
  stop

/-- The hint behind a complaint about how a program was called. -/
def hint : Tool Unit := do
  let name := (← get).name
  emit (Bytes.ofString "Try '" ++ name ++ Bytes.ofString " --help' for more information.\n")

/-- Complains about how the program was called, and ends it. -/
def misuse (code : UInt8) (text : Bytes) : Tool α := do
  warn text
  hint
  setCode code
  stop

/-- A program as a part of what a process does: what it holds back is put out at its end. -/
def activity (tool : Tool Unit) (call : Call) : Activity Unit := do
  let unheard (reason : String) : UInt8 × List String := (1, ["write error: " ++ reason])
  let (_, desk) ← StateT.run (ExceptT.run tool) ⟨call.name, [], 0, 0, [], unheard⟩
  let (_, desk) ← StateT.run (ExceptT.run flush) desk
  Activity.exit desk.code

/-- A program as a process. -/
def task (tool : Tool Unit) (call : Call) : Task :=
  (activity tool call).task

end Tool

end ChangelogSql.Utility
