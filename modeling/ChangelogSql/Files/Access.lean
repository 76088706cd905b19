import ChangelogSql.Files.Lookup
import ChangelogSql.Path.Ancestors

/-!
What a process asks a file system and how it changes one. A process sees the
disk from its own working directory, so the same path can denote different
places for different processes. Every process is privileged: modes are kept, and
no read and no write is refused for one.
-/

namespace ChangelogSql.Files

/-- A disk seen from a working directory. -/
structure View where
  disk : Disk
  cwd : Location

/-- What the file of a program of the machine begins with; nothing else can be told from it. -/
def programMark : Bytes :=
  [0x7F, 0x45, 0x4C, 0x46]

/-- The bytes of a file. -/
def Disk.contentOf (disk : Disk) (number : Nat) : Except Fault Bytes :=
  match disk.file? number with
  | some ⟨.bytes bytes, _, _⟩ => .ok bytes
  | some ⟨.program _, _, _⟩ => .ok programMark
  | some ⟨.unreadable fault, _, _⟩ => .error fault
  | none => .error .inputOutput

namespace View

/-- What a path leads to, links followed. -/
def stat (view : View) (path : Path) : Except Fault Node := do
  match (← view.disk.lookup true view.cwd path).node? with
  | none => .error .notFound
  | some node => .ok node

/-- What a path leads to, a link at its end not followed. -/
def linkStat (view : View) (path : Path) : Except Fault Node := do
  match (← view.disk.lookup false view.cwd path).node? with
  | none => .error .notFound
  | some node => .ok node

/-- A regular file stands at the end of the path, links followed. -/
def isFile (view : View) (path : Path) : Bool :=
  match view.stat path with
  | .ok (.file _) => true
  | _ => false

/-- A directory stands at the end of the path, links followed. -/
def isDirectory (view : View) (path : Path) : Bool :=
  match view.stat path with
  | .ok (.directory ..) => true
  | _ => false

/-- The file that stands at the end of a path, links followed. -/
def file? (view : View) (path : Path) : Option File :=
  match view.stat path with
  | .ok (.file number) => view.disk.file? number
  | _ => none

/-- A regular file that may be executed stands at the end of the path, links followed. -/
def isExecutable (view : View) (path : Path) : Bool :=
  match view.file? path with
  | some file => isRunnable file.mode
  | none => false

/-- The bytes of the file a path leads to. -/
def read (view : View) (path : Path) : Except Fault Bytes := do
  match ← view.stat path with
  | .file number => view.disk.contentOf number
  | .device _ | .queue _ => .ok []
  | .directory .. => .error .isDirectory
  | .link _ => .error .tooManyLinks

/-- The place of what a path leads to, which must exist. -/
def locate (view : View) (path : Path) : Except Fault Location := do
  let place ← view.disk.lookup true view.cwd path
  match place.node? with
  | none => .error .notFound
  | some _ => .ok place.location

/-- The absolute path without links, `.`, `..` and idle separators that denotes what `path`
denotes. The path is gone through step by step, so its own length does not count. -/
def canonical (view : View) (path : Path) : Except Fault Path := do
  let place ← view.disk.search true view.cwd path
  match place.node? with
  | none => .error .notFound
  | some _ => .ok place.location.path

/-- The absolute path of the working directory, as long as it exists. -/
def currentDirectory (view : View) : Except Fault Path :=
  match view.disk.node? view.cwd with
  | some (.directory ..) => .ok (Location.path view.cwd)
  | _ => .error .notFound

/-- What a path is opened on for writing: a file, or something that keeps nothing. -/
inductive Opened where
  | file (number : Nat)
  | device (device : Device)
  | queue (number : Nat)
  deriving DecidableEq

/-- The disk after `path` was opened for writing, and what it leads to. A file that is not there is
made, with the permissions given; one that is keeps its content only if `keep` is set. -/
def openForWriting (view : View) (path : Path) (keep : Bool) (mode : Nat) :
    Except Fault (Disk × Opened) := do
  let place ← view.disk.lookup true view.cwd path
  match place.node? with
  | none =>
    if path.bytes.getLast? = some separator then .error .isDirectory
    else
      let (disk, number) := view.disk.addFile (.bytes []) mode
      .ok (disk.putFile place.location number, .file number)
  | some (.file number) =>
    match view.disk.file? number with
    | some ⟨.bytes _, _, _⟩ | some ⟨.program _, _, _⟩ =>
      .ok (if keep then view.disk else view.disk.setContent number (.bytes []), .file number)
    | _ => .ok (view.disk, .file number)
  | some (.device device) => .ok (view.disk, .device device)
  | some (.queue number) => .ok (view.disk, .queue number)
  | some (.directory ..) => .error .isDirectory
  | some (.link _) => .error .tooManyLinks

/-- The disk after the file at `path` was made to hold exactly `bytes`. -/
def write (view : View) (path : Path) (bytes : Bytes) : Except Fault Disk := do
  match ← view.openForWriting path false plainMode with
  | (disk, .file number) =>
    match disk.file? number with
    | some ⟨.bytes _, _, _⟩ => .ok (disk.setContent number (.bytes bytes))
    | _ => .ok disk
  | (disk, _) => .ok disk

/-- The disk after the entry at `path`, which must not be a directory, was taken away. -/
def remove (view : View) (path : Path) : Except Fault Disk := do
  let place ← view.disk.lookup false view.cwd path
  match place.node? with
  | none => .error .notFound
  | some (.directory ..) => .error .isDirectory
  | some _ => .ok (view.disk.erase place.location)

/-- The disk after `node` was put at `path`, in place of what stood there. No directory of it may
repeat a name. -/
def place (view : View) (path : Path) (node : Node) : Except Fault Disk := do
  let place ← view.disk.lookup false view.cwd path
  if tidy : node.isTidy = true then .ok (view.disk.put place.location node tidy)
  else .error .alreadyExists

/-- A path without separators at its end. -/
def untrailed (path : Path) : Path :=
  let bytes := (path.bytes.reverse.dropWhile (· = separator)).reverse
  if bytes = [] then path else ⟨bytes⟩

/-- The disk after one directory was made, where nothing stood. -/
def makeDirectory (view : View) (path : Path) (mode : Nat) : Except Fault Disk := do
  let place ← view.disk.lookup false view.cwd (untrailed path)
  match place.node? with
  | none => .ok (view.disk.put place.location (.directory mode .nil) rfl)
  | some _ => .error .alreadyExists

/-- The disk after `path` and every directory on the way were made. A directory that is there
already is left as it is. -/
def makeDirectories (view : View) (path : Path) : Except Fault Disk :=
  path.ancestors.reverse.foldlM
    (fun disk above =>
      let view := { view with disk }
      if above.bytes = [] || view.isDirectory above then .ok disk
      else view.makeDirectory above programMode)
    view.disk

end View

end ChangelogSql.Files
