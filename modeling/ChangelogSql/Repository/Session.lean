import ChangelogSql.Files.Change
import ChangelogSql.Programs.Machine
import ChangelogSql.Repository.Snapshot

/-!
What a version control command works on: the disk, the repository and the tree
that belongs to it, and what has been said so far. The repository lies in files
of its own directory: objects by their names, references, the head, and what is
staged.
-/

namespace ChangelogSql.Repository

open Text (ascii)
open Files Programs

/-- Where a repository is. -/
structure Site where
  /-- The path of its own directory. -/
  own : Bytes
  /-- The path of the top of the working tree, and its place. -/
  top : Bytes
  location : Location
  /-- The working directory as it is named from the top, with a separator at its end unless it is
  the top. -/
  inner : Bytes
  isBare : Bool

/-- What a command has at hand. -/
structure Session where
  view : View
  umask : Nat
  environment : Environment
  input : Bytes
  site : Site
  /-- Settings that were given for this command only. -/
  overrides : List (Bytes × Bytes)
  /-- What has been said, the last first. -/
  said : List (Stream × Bytes)

/-- A step of a command, which can end it with a code. -/
abbrev Work (α : Type) := ExceptT UInt8 (StateM Session) α

namespace Work

variable {α : Type}

def putOn (stream : Stream) (bytes : Bytes) : Work Unit :=
  modify fun session => { session with said := (stream, bytes) :: session.said }

/-- Puts something out. -/
def put (bytes : Bytes) : Work Unit := putOn .out bytes

/-- Puts out a line. -/
def putLine (bytes : Bytes) : Work Unit := put (bytes ++ [0x0A])

/-- Says something beside the output. -/
def note (bytes : Bytes) : Work Unit := putOn .err bytes

/-- Ends the command. -/
def stop (code : UInt8) : Work α := throw code

/-- Says why the command cannot be done, and ends it. -/
def die (text : Bytes) : Work α := do
  note (Bytes.ofString "fatal: " ++ text ++ [0x0A])
  stop 128

/-- Says what is wrong, and ends the command. -/
def fail (code : UInt8) (text : Bytes) : Work α := do
  note (Bytes.ofString "error: " ++ text ++ [0x0A])
  stop code

/-- What is seen of the disk. -/
def view : Work View := do
  return (← get).view

def site : Work Site := do
  return (← get).site

/-- Changes the disk, where that is allowed. -/
def change (work : View → Except Fault Disk) : Work (Except Fault Unit) := do
  let session ← get
  match work session.view with
  | .ok disk =>
    set { session with view := { session.view with disk } }
    return .ok ()
  | .error fault => return .error fault

/-- A variable of the environment. -/
def setting? (name : String) : Work (Option Bytes) := do
  return (← get).environment.lookup (Bytes.ofString name)

end Work

/-- A path in the repository's own directory. -/
def Site.path (site : Site) (name : Bytes) : Path :=
  ⟨site.own ++ separator :: name⟩

/-- A path of the working tree. -/
def Site.outer (site : Site) (path : Bytes) : Path :=
  ⟨site.top ++ separator :: path⟩

/-- The directories of a path, from the outermost on. -/
def directoriesOf (path : Bytes) : List Bytes :=
  let segments := (Text.splitAt separator path).dropLast
  (List.range segments.length).map fun count => Text.joinWith separator (segments.take (count + 1))

/-- The disk after a file was written, with the directories on the way to it. What stands in the way
gives way. -/
def written (view : View) (path : Path) (content : Bytes) (mode : Nat) : Except Fault Disk := do
  let disk ←
    match path.parent? with
    | some parent => view.makeDirectories parent
    | none => .ok view.disk
  let view := { view with disk }
  let place ← view.disk.lookup false view.cwd path
  match place.node? with
  | some (.file number) =>
    let disk := view.disk.setContent number (.bytes content)
    .ok (disk.alterFile number fun file => { file with mode })
  | _ =>
    let (disk, number) := view.disk.addFile (.bytes content) mode
    .ok (disk.putFile place.location number)

namespace Work

/-- The content of a file of the repository. -/
def own? (name : Bytes) : Work (Option Bytes) := do
  let session ← get
  return (session.view.read (session.site.path name)).toOption

/-- Writes a file of the repository. -/
def setOwn (name content : Bytes) : Work Unit := do
  let path := (← site).path name
  match ← change fun view => written view path content plainMode with
  | .ok () => pure ()
  | .error fault =>
    die (Bytes.ofString "could not open '" ++ path.bytes ++ Bytes.ofString "' for writing: "
      ++ Bytes.ofString fault.reason)

/-- Takes a file of the repository away. -/
def eraseOwn (name : Bytes) : Work Unit := do
  let path := (← site).path name
  let _ ← change fun view => view.unlink path

/-- Where an object is kept. -/
def objectName (id : Id) : Bytes :=
  Bytes.ofString "objects/" ++ id.take 2 ++ separator :: id.drop 2

/-- Something that is kept. -/
def object? (session : Session) (id : Id) : Option Object := do
  let bytes ← (session.view.read (session.site.path (objectName id))).toOption
  Object.ofWhole? bytes

/-- Keeps something, unless it is kept already. -/
def keep (object : Object) : Work Id := do
  let id := object.id
  if (object? (← get) id).isNone then
    setOwn (objectName id) object.whole
  return id

/-- What is staged. -/
def staged : Work Snapshot := do
  return Snapshot.ofBytes ((← own? (Bytes.ofString "index")).getD [])

/-- Stages a snapshot. -/
def setStaged (snapshot : Snapshot) : Work Unit :=
  setOwn (Bytes.ofString "index") snapshot.bytes

/-- Keeps the directories of a snapshot; the name of the top. -/
def keepTrees (snapshot : Snapshot) : Work Id := do
  let mut id := noId
  for tree in Snapshot.trees snapshot do
    id ← keep tree
  return id

/-- How deep directories lie at most. -/
def depthLimit : Nat := 1000

/-- What a directory that is kept holds. -/
def snapshotOf (tree : Id) : Work Snapshot := do
  return sorted (Snapshot.ofTree (object? (← get)) depthLimit [] tree)

/-- A commit that is kept. -/
def commit? (id : Id) : Work (Option Commit) := do
  match object? (← get) id with
  | some (.commit commit) => return some commit
  | _ => return none

/-- What the head is: a reference, or a commit. -/
inductive Head where
  | reference (name : Bytes)
  | detached (id : Id)
  deriving DecidableEq

/-- A text without the blanks and line ends behind it. -/
def trimmed (text : Bytes) : Bytes :=
  (text.reverse.dropWhile Text.Ascii.isSpace).reverse

/-- The head. -/
def head : Work Head := do
  let text := trimmed ((← own? (Bytes.ofString "HEAD")).getD [])
  match Text.afterBlock? (Bytes.ofString "ref: ") text with
  | some name => return .reference name
  | none => return .detached text

/-- The name that a reference leads to. -/
def reference? (name : Bytes) : Work (Option Id) := do
  match ← own? name with
  | some text =>
    let id := trimmed text
    return if id.length = 40 then some id else none
  | none => return none

/-- The commit that is the head. -/
def headId? : Work (Option Id) := do
  match ← head with
  | .reference name => reference? name
  | .detached id => return some id

/-- What the head holds. -/
def headSnapshot : Work Snapshot := do
  match ← headId? with
  | none => return []
  | some id =>
    match ← commit? id with
    | some commit => snapshotOf commit.tree
    | none => return []

/-- The name of a branch without what all branches begin with. -/
def shortName (reference : Bytes) : Bytes :=
  (["refs/heads/", "refs/tags/", "refs/remotes/", "refs/"].findSome? fun start =>
    Text.afterBlock? (Bytes.ofString start) reference).getD reference

/-- The references whose names begin in a way, in their order. -/
def references (start : String) : Work (List (Bytes × Id)) := do
  let session ← get
  let base := Bytes.ofString start
  let path := session.site.path (base.take (base.length - 1))
  match session.view.stat path with
  | .ok (.directory _ entries) =>
    let found := sorted (foundAmong [] entries)
    return found.map fun (name, found) => (base ++ name, trimmed (found.content session.view.disk))
  | _ => return []

/-- What can be tracked in the working tree. -/
def found : Work (List (Bytes × Found)) := do
  let session ← get
  return foundBelow session.view.disk session.site.location

/-- The directories of the working tree in which there is no file. -/
def emptyDirectories : Work (List Bytes) := do
  let session ← get
  match session.view.disk.node? session.site.location with
  | some (.directory _ entries) => return emptyAmong [] entries
  | _ => return []

/-- The beginning of a name that is enough to know it. -/
def short (id : Id) : Bytes := id.take 7

end Work

end ChangelogSql.Repository
