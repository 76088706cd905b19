import ChangelogSql.Shell.Job
import ChangelogSql.Shell.Lookup

/-!
Starting programs from a shell. Each file that the name can mean is tried until
one of them can be started; a file that is no program is a script for another
shell.
-/

namespace ChangelogSql.Shell.Launch

open Text (ascii)
open Files Programs Kernel

/-- The file of the shell that runs scripts which do not say what runs them. -/
def shellFile : Path :=
  Path.ofString "/bin/sh"

/-- Lets the program in a file take the place of the process; there is an answer only where it
cannot be started. -/
def replaceBy (loader : Loader) (file name : Bytes) (arguments : List Bytes) : Work Fault := do
  let environment := (← get).environment
  let call : Call := ⟨⟨file⟩, name, arguments, environment⟩
  match ← Work.perform (Activity.execute loader call) with
  | .system 8 =>
    Work.perform (Activity.execute loader
      ⟨shellFile, shellFile.bytes, file :: arguments, environment⟩)
  | fault => return fault

/-- Tries files one after the other; the last refusal counts that says more than that there is no
such file. -/
def tryAll (loader : Loader) (name : Bytes) (arguments : List Bytes) :
    Fault → List Bytes → Work Fault
  | fault, [] => return fault
  | fault, file :: rest => do
    let other ← replaceBy loader file name arguments
    let fault := if other = .notFound || other = .notDirectory then fault else other
    tryAll loader name arguments fault rest

/-- Lets a program take the place of the process. Where that is not possible it is reported. -/
def replace (loader : Loader) (name : Bytes) (arguments : List Bytes) (places? : Option Bytes)
    (index : Nat) : Work Unit := do
  let state ← get
  let fault ←
    if name.contains separator then replaceBy loader name name arguments
    else
      tryAll loader name arguments .notFound
        ((candidates (places?.getD state.places) name).drop index)
  Work.report (name ++ Bytes.ofString (": " ++ startFailure fault))
  let isMissing := fault = .notFound || fault = .notDirectory || fault = .tooManyLinks
    || fault = .nameTooLong
  Work.setStatus (if isMissing then 127 else 126)

/-- Runs a program and waits for its end. -/
def run (loader : Loader) (name : Bytes) (arguments : List Bytes) (places? : Option Bytes)
    (index : Nat) : Work Unit := do
  let job ← Work.newJob
  Work.forkFor job false do
    replace loader name arguments places? index
    Work.quit (← get).status
  Work.setStatus (← Work.await job)

end ChangelogSql.Shell.Launch
