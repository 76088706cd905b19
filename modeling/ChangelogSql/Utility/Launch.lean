import ChangelogSql.Programs.Machine
import ChangelogSql.Utility.Basic

/-!
Programs that start others. A name is looked for along the search path of the
environment that is passed on, and a file that is no program is a script for a
shell.
-/

namespace ChangelogSql.Utility.Tool

open Text (ascii)
open Files Programs Kernel

/-- The directories in which programs are looked for where nothing is said about that. -/
def usualDirectories : Bytes :=
  Bytes.ofString "/bin:/usr/bin"

/-- Lets the program in a file take the place of this one. -/
def replaceBy (loader : Loader) (environment : Environment) (file name : Bytes)
    (arguments : List Bytes) : Tool Fault := do
  match ← perform (Activity.execute loader ⟨⟨file⟩, name, arguments, environment⟩) with
  | .system 8 =>
    perform (Activity.execute loader
      ⟨Path.ofString "/bin/sh", Bytes.ofString "/bin/sh", file :: arguments, environment⟩)
  | fault => return fault

/-- Tries files one after the other. That one of them must not be run counts for more than that
another is not there. -/
def tryAll (loader : Loader) (environment : Environment) (name : Bytes) (arguments : List Bytes) :
    Fault → List Bytes → Tool Fault
  | fault, [] => return fault
  | fault, file :: rest => do
    let other ← replaceBy loader environment file name arguments
    if other = .notFound || other = .notDirectory || other = .permissionDenied then
      tryAll loader environment name arguments
        (if fault = .permissionDenied then fault else other) rest
    else return other

/-- Lets a program take the place of this one; there is an answer only where it cannot be
started. -/
def replace (loader : Loader) (environment : Environment) (name : Bytes)
    (arguments : List Bytes) : Tool Fault := do
  flush
  if name = [] then return .notFound
  else if name.contains separator then replaceBy loader environment name name arguments
  else
    let directories := (environment.lookup (Bytes.ofString "PATH")).getD usualDirectories
    let files := (Text.splitAt (ascii ':') directories).map fun directory =>
      if directory = [] then name else directory ++ separator :: name
    tryAll loader environment name arguments .notFound files

/-- How a program that was started ended, or why it could not be started. -/
inductive Outcome where
  | ended (status : Status)
  | refused (fault : Fault)

/-- Starts a program and waits for its end; `prepare` is done first in the process that it gets. One
that cannot be started leaves a number that says why; it is told apart from a program's own end by
what is written to a pipe. -/
def runAfter (prepare : Tool Unit) (loader : Loader) (environment : Environment) (name : Bytes)
    (arguments : List Bytes) : Tool Outcome := do
  flush
  let (source, target) ← ask Kernel.Request.pipe
  let _ ← ask (Kernel.Request.alterSelf fun process =>
    match process.descriptors.lookup target with
    | some descriptor => process.bind target { descriptor with isPrivate := true }
    | none => process)
  let child : Tool Unit := do
    let _ ← ask (Kernel.Request.close source)
    prepare
    match ← replace loader environment name arguments with
    | .system number =>
      let _ ← perform (Activity.write target (Text.Ascii.ofInt number))
    | _ => pure ()
    stop
  let desk ← get
  let whole : Activity Unit := do
    let _ ← StateT.run (ExceptT.run child) { desk with held := [], size := 0 }
    Activity.exit 127
  let process ← perform (Activity.fork whole.task)
  let _ ← ask (Kernel.Request.close target)
  let report ← perform (Activity.readAll source)
  let _ ← ask (Kernel.Request.close source)
  let status ← ask (Kernel.Request.wait (some process) true)
  match report with
  | .ok (b :: rest) =>
    return .refused (.system ((Text.Ascii.integer? (b :: rest)).getD 2))
  | _ =>
    match status with
    | .ok (some (_, status)) => return .ended status
    | _ => return .ended (.exited 0)

/-- Starts a program and waits for its end. -/
def run (loader : Loader) (environment : Environment) (name : Bytes) (arguments : List Bytes) :
    Tool Outcome :=
  runAfter (pure ()) loader environment name arguments

/-- Takes the input of the program away: there is nothing to be read any more. -/
def withoutInput : Tool Unit := do
  let _ ← ask (Kernel.Request.close 0)
  let _ ← ask (Kernel.Request.openPath (Path.ofString "/dev/null") Kernel.Purpose.reading 0)

end ChangelogSql.Utility.Tool
