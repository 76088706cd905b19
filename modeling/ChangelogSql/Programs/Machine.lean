import ChangelogSql.Programs.Status
import ChangelogSql.World

/-!
Programs and what running one does. A machine knows where programs are looked
for and what starting a file leads to; a started program always ends, and may
have changed the disk and written to its streams by then. A call is a program
with all that it is given: the file, its arguments, and the variables of its
environment.
-/

namespace ChangelogSql.Programs

open Files

/-- A program as it is started: its file, what it is called, its arguments, and the directory it
starts in, which is the one of its parent where none is given. -/
structure Invocation where
  program : Path
  name : Bytes
  arguments : List Bytes
  directory? : Option Path
  /-- Whether all of its output is waited for, also what others write that it has left behind. -/
  awaitsOutput : Bool
  deriving DecidableEq

/-- What a program that ended has left: its output in the order in which it was written, and the
disk and the machine's memory as they are now. -/
structure Finished (σ : Type) where
  status : Status
  output : List (Stream × Bytes)
  disk : Disk
  memory : σ

/-- A machine that runs programs. -/
structure Machine (σ : Type) where
  /-- The directories in which programs are looked for, in this order. -/
  searchPath : List Path
  /-- Starts a program and waits for its end, or says why it cannot be started. -/
  start : Invocation → View → σ → Except Fault (Finished σ)

/-- A path continued by what a relative one denotes, step by step; that it starts here says
nothing. -/
def continued (path : Path) (components : List Path.Component) : Path :=
  components.foldl
    (fun path component =>
      match component with
      | .top | .here => path
      | .up => path.join (Path.ofString "..")
      | .normal name => path.join ⟨name⟩)
    path

/-- The files that could be meant by the name of a program. A name of several components is a path
from the working directory; any other is looked for along the search path. -/
def candidates (searchPath : List Path) (view : View) (program : String) : List Path :=
  let name := Path.ofString program
  if name.isAbsolute then [name]
  else if 1 < name.components.length then
    [continued (Location.path view.cwd) name.components]
  else searchPath.map (·.join name)

/-- The file that is started under a name: the first candidate that may be executed. -/
def locate? (searchPath : List Path) (view : View) (program : String) : Option Path :=
  (candidates searchPath view program).find? view.isExecutable

/-- The variables a process is given. -/
abbrev Environment := List (Bytes × Bytes)

/-- A program as it is called. -/
structure Call where
  file : Path
  /-- What the program was called. -/
  name : Bytes
  arguments : List Bytes
  environment : Environment
  deriving DecidableEq

namespace Environment

/-- The directories that a list of them with colons in between names. An empty entry is the working
directory. -/
def directories (list : Bytes) : List Path :=
  (Text.splitAt 0x3A list).map fun entry => if entry = [] then Path.ofString "." else ⟨entry⟩

/-- The directories in which programs are looked for. -/
def searchPath (environment : Environment) : List Path :=
  match environment.lookup (Bytes.ofString "PATH") with
  | none => []
  | some value => directories value

end Environment

end ChangelogSql.Programs
