import ChangelogSql.CommandLine.Run
import ChangelogSql.Local.Machine
import ChangelogSql.Sandbox.Redaction

/-!
A place of its own for trying out the whole program: a work tree, a directory
of programs that come before those of the machine, a directory for passing
files, and a log in which the programs note how they were called. A step that
cannot be done breaks the sandbox.
-/

namespace ChangelogSql

open Files Programs

/-- A sandbox: the path of the directory that was made for it, which is never empty, and the disk
it is on. -/
structure Sandbox where
  root : Path
  disk : Disk
  placed : root.bytes ≠ []

namespace Sandbox

/-- A place in the sandbox. -/
def place (sandbox : Sandbox) (name : String) : Path :=
  sandbox.root.join (Path.ofString name)

def work (sandbox : Sandbox) : Path :=
  sandbox.place "work"

def bin (sandbox : Sandbox) : Path :=
  sandbox.place "bin"

def tmp (sandbox : Sandbox) : Path :=
  sandbox.place "tmp"

def home (sandbox : Sandbox) : Path :=
  sandbox.place "home"

def log (sandbox : Sandbox) : Path :=
  sandbox.place "calls.log"

/-- The disk from the top. -/
def view (sandbox : Sandbox) : View :=
  ⟨sandbox.disk, []⟩

/-- The sandbox after its disk was changed, where that went well. -/
def changed (sandbox : Sandbox) : Except Fault Disk → Option Sandbox
  | .ok disk => some { sandbox with disk }
  | .error _ => none

/-- An empty sandbox at a place on a disk. -/
def make (disk : Disk) (root : Path) : Option Sandbox :=
  if placed : root.bytes ≠ [] then do
    let sandbox : Sandbox := ⟨root, disk, placed⟩
    let sandbox ← [sandbox.work, sandbox.bin, sandbox.tmp, sandbox.home].foldlM
      (fun sandbox directory => sandbox.changed (sandbox.view.makeDirectories directory)) sandbox
    sandbox.changed (sandbox.view.write sandbox.log [])
  else none

/-- Puts a file into the work tree, with the directories on the way to it. -/
def write (sandbox : Sandbox) (path : Path) (content : Bytes) : Option Sandbox := do
  let path := sandbox.work.join path
  let sandbox ←
    match path.parent? with
    | none => some sandbox
    | some parent => sandbox.changed (sandbox.view.makeDirectories parent)
  sandbox.changed (sandbox.view.write path content)

/-- Puts a file into the directory for passing files. -/
def writeTmp (sandbox : Sandbox) (name : Path) (content : Bytes) : Option Sandbox :=
  sandbox.changed (sandbox.view.write (sandbox.tmp.join name) content)

/-- Puts a program into the sandbox, whose body is a script for the shell. -/
def tool (sandbox : Sandbox) (name : Path) (body : Bytes) : Option Sandbox := do
  let path := sandbox.bin.join name
  let script := Bytes.ofString "#!/bin/sh\n" ++ body ++ [0x0A]
  let sandbox ← sandbox.changed (sandbox.view.write path script)
  sandbox.changed (sandbox.view.setMode path fun _ _ => programMode)

/-- The variables that programs in the sandbox are given, in the order of their names. -/
def environment (sandbox : Sandbox) : Environment :=
  let named (name : String) (value : Bytes) : Bytes × Bytes := (Bytes.ofString name, value)
  let canonicalRoot :=
    match sandbox.view.canonical sandbox.root with
    | .ok path => path
    | .error _ => sandbox.root
  [named "GIT_AUTHOR_EMAIL" (Bytes.ofString "test@example.com"),
    named "GIT_AUTHOR_NAME" (Bytes.ofString "Sandbox"),
    named "GIT_CEILING_DIRECTORIES" canonicalRoot.bytes,
    named "GIT_COMMITTER_EMAIL" (Bytes.ofString "test@example.com"),
    named "GIT_COMMITTER_NAME" (Bytes.ofString "Sandbox"),
    named "GIT_CONFIG_GLOBAL" (Bytes.ofString "/dev/null"),
    named "GIT_CONFIG_NOSYSTEM" (Bytes.ofString "1"),
    named "HOME" sandbox.home.bytes, named "NO_COLOR" (Bytes.ofString "1"),
    named "PATH" (sandbox.bin.bytes ++ Bytes.ofString ":/usr/bin:/bin"),
    named "SANDBOX_LOG" sandbox.log.bytes, named "TMPDIR" sandbox.tmp.bytes]

/-- The machine that runs the programs of the sandbox. -/
def machine (sandbox : Sandbox) : Machine Unit :=
  Local.machine sandbox.environment

/-- The program that runs a file that is no program. -/
def shell : Path :=
  Path.ofString "/bin/sh"

/-- Runs the first of some files that is there and can be run; a file that is no program is a script
for the shell. `fault` is what is wrong with the files before; that one of them must not be run
counts for more than that another is not there. -/
def runFirst (sandbox : Sandbox) (outside : Location) (name : Bytes) (arguments : List Bytes) :
    Fault → List Path → Except Fault (Finished Unit)
  | fault, [] => .error fault
  | fault, file :: rest =>
    let start (program : Path) (name : Bytes) (arguments : List Bytes) :=
      sandbox.machine.start ⟨program, name, arguments, some sandbox.work, true⟩
        ⟨sandbox.disk, outside⟩ ()
    match start file name arguments with
    | .ok finished => .ok finished
    | .error other =>
      if other = .badExecutable then start shell shell.bytes (file.bytes :: arguments)
      else if other = .notFound || other = .notDirectory || other = .permissionDenied then
        runFirst sandbox outside name arguments
          (if fault = .permissionDenied then fault else other) rest
      else .error other

/-- The files that can be meant by a program's name. A name with a separator in it is a path from
where the sandbox is used. -/
def candidates (sandbox : Sandbox) (outside : Location) (name : Path) :
    Except Fault (List Path) := do
  if name.bytes.contains separator then
    if name.isAbsolute then return [name]
    else return [← View.canonical ⟨sandbox.disk, outside⟩ name]
  else if name.bytes = [] then throw .notFound
  else return sandbox.machine.searchPath.map (·.join name)

/-- What a program did, and the sandbox afterwards. -/
def afterwards (sandbox : Sandbox) (finished : Finished Unit) : Sandbox :=
  { sandbox with disk := finished.disk }

/-- Runs a program in the work tree. -/
def command (sandbox : Sandbox) (outside : Location) (name : String) (arguments : List Bytes) :
    Except Fault (Finished Unit × Sandbox) := do
  let path := Path.ofString name
  if path.bytes.contains 0 then throw .nulInArgument
  let files ← sandbox.candidates outside path
  let finished ← sandbox.runFirst outside path.bytes arguments .notFound files
  return (finished, sandbox.afterwards finished)

/-- Runs the version control program, which must succeed. -/
def git (sandbox : Sandbox) (arguments : List Bytes) : Option Sandbox :=
  match sandbox.command [] "git" arguments with
  | .ok (finished, sandbox) => if finished.status.success then some sandbox else none
  | .error _ => none

/-- Makes the work tree a repository. -/
def initGit (sandbox : Sandbox) : Option Sandbox :=
  sandbox.git (["init", "-q"].map Bytes.ofString)

/-- Commits all that is in the work tree. -/
def commit (sandbox : Sandbox) (message : Bytes) : Option Sandbox := do
  let sandbox ← sandbox.git (["add", "-A"].map Bytes.ofString)
  sandbox.git (["commit", "-q", "-m"].map Bytes.ofString ++ [message])

/-- A path without links, where there is one. -/
def canonical? (sandbox : Sandbox) (path : Path) : Option String :=
  match sandbox.view.canonical path with
  | .ok path => some path.shown
  | .error _ => none

/-- A text with the paths of the sandbox replaced by labels. -/
def redact (sandbox : Sandbox) (text : String) : String :=
  let all := redactions (sandbox.canonical? sandbox.work) sandbox.work.shown
    (sandbox.canonical? sandbox.tmp) sandbox.tmp.shown
  String.ofList (Redaction.applyAll all text.toList)

/-- What programs have noted, where it is text. -/
def calls (sandbox : Sandbox) : Option String :=
  match sandbox.view.read sandbox.log with
  | .ok bytes => (Text.Utf8.decode? bytes).map fun chars => sandbox.redact (String.ofList chars)
  | .error _ => none

/-- Forgets what programs have noted. -/
def clearCalls (sandbox : Sandbox) : Option Sandbox :=
  sandbox.changed (sandbox.view.write sandbox.log [])

/-- A file at a path, as it is shown. -/
def shownFile? (sandbox : Sandbox) (path : Path) : Option String :=
  match sandbox.view.read path with
  | .ok bytes => some (sandbox.redact bytes.shown)
  | .error _ => none

/-- What a program wrote to a stream, as it is shown. -/
def shownOutput (sandbox : Sandbox) (stream : Stream)
    (finished : Finished Unit) : String :=
  sandbox.redact (Bytes.shown (finished.output.flatMap fun written =>
    if written.1 = stream then written.2 else []))

/-- Runs the whole program in the work tree, with jars kept in the directory for passing files. -/
def run (sandbox : Sandbox) (arguments : List Bytes) :
    Option (Finished Unit × Sandbox) := do
  let cwd ←
    match sandbox.view.locate sandbox.work with
    | .ok cwd => some cwd
    | .error _ => none
  let start : CommandLine.Start :=
    ⟨Bytes.ofString "--artifact-dir" :: sandbox.tmp.bytes :: arguments, none, false, ""⟩
  let finished := CommandLine.run start sandbox.machine ⟨sandbox.disk, cwd⟩ ()
  return (finished, sandbox.afterwards finished)

end Sandbox

end ChangelogSql
