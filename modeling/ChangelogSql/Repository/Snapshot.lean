import ChangelogSql.Files.Facts
import ChangelogSql.Repository.Object

/-!
What a working tree holds at one moment, as version control sees it: files and
links by their paths below the top, in the order of the paths. Directories count
only for what is in them, and the repository's own directory is left out.
-/

namespace ChangelogSql.Repository

open Text (ascii)
open Files

/-- The name of the directory that makes a directory the top of a working tree. -/
def ownName : Bytes :=
  Bytes.ofString ".git"

/-- What is tracked at a path. -/
structure Leaf where
  kind : Kind
  id : Id
  deriving DecidableEq

/-- What is tracked, by paths and in their order. -/
abbrev Snapshot := List (Bytes × Leaf)

/-- What can be tracked at a path of a working tree. -/
inductive Found where
  | file (number : Nat)
  | link (target : Bytes)
  /-- The top of another working tree. -/
  | module
  deriving DecidableEq

/-- A directory is the top of a working tree of its own. -/
def isTop (entries : Entries) : Bool :=
  match entries.toList.find? fun entry => entry.1.bytes = ownName with
  | some (_, .directory _ own) => own.toList.any fun entry => entry.1.bytes = Bytes.ofString "HEAD"
  | _ => false

mutual

/-- What can be tracked at and below a node that stands at a path. -/
def foundIn (path : Bytes) : Node → List (Bytes × Found)
  | .file number => [(path, .file number)]
  | .link target => [(path, .link target.bytes)]
  | .device _ | .queue _ => []
  | .directory _ entries =>
    if isTop entries then [(path, .module)] else foundAmong (path ++ [separator]) entries

/-- What can be tracked in and below the entries of a directory whose path, with the separator behind
it, is given. -/
def foundAmong (base : Bytes) : Entries → List (Bytes × Found)
  | .nil => []
  | .cons name node rest =>
    (if name.bytes = ownName then [] else foundIn (base ++ name.bytes) node)
      ++ foundAmong base rest

end

/-- The outermost directories without any file in and below some entries, with separators behind
their paths. -/
def emptyAmong (base : Bytes) : Entries → List Bytes
  | .nil => []
  | .cons name node rest =>
    let path := base ++ name.bytes
    let here :=
      if name.bytes = ownName then []
      else
        match node with
        | .directory mode entries =>
          if foundIn path (.directory mode entries) = [] then [path ++ [separator]]
          else emptyAmong (path ++ [separator]) entries
        | _ => []
    here ++ emptyAmong base rest

/-- Pairs in the order of their paths. -/
def sorted {α : Type} (pairs : List (Bytes × α)) : List (Bytes × α) :=
  pairs.mergeSort fun entry other => entry.1 ≤ other.1

/-- What can be tracked in a working tree, by paths and in their order. -/
def foundBelow (disk : Disk) (top : Location) : List (Bytes × Found) :=
  match disk.node? top with
  | some (.directory _ entries) => sorted (foundAmong [] entries)
  | _ => []

/-- The bytes of what was found. -/
def Found.content (disk : Disk) : Found → Bytes
  | .file number => (disk.contentOf number).toOption.getD []
  | .link target => target
  | .module => []

def Found.kind (disk : Disk) : Found → Kind
  | .file number =>
    match disk.file? number with
    | some entry => if entry.mode &&& 0o100 ≠ 0 then .program else .file
    | none => .file
  | .link _ => .link
  | .module => .module

/-- What was found as it would be tracked. -/
def Found.leaf (disk : Disk) (found : Found) : Leaf :=
  match found with
  | .module => ⟨.module, noId⟩
  | found => ⟨found.kind disk, (Object.blob (found.content disk)).id⟩

namespace Snapshot

/-- What is tracked at a path. -/
def find? (snapshot : Snapshot) (path : Bytes) : Option Leaf :=
  snapshot.lookup path

/-- The paths. -/
def paths (snapshot : Snapshot) : List Bytes :=
  snapshot.map Prod.fst

/-- What is tracked, with one path more, or the same path tracked anew. What is tracked below the path
or at a path that leads to it gives way. -/
def insert (snapshot : Snapshot) (path : Bytes) (leaf : Leaf) : Snapshot :=
  let isInTheWay (other : Bytes) : Bool :=
    other = path || (path ++ [separator]).isPrefixOf other
      || (other ++ [separator]).isPrefixOf path
  let others := snapshot.filter fun entry => !isInTheWay entry.1
  let before := others.takeWhile fun entry => entry.1 < path
  before ++ (path, leaf) :: others.drop before.length

/-- What is tracked without a path. -/
def erase (snapshot : Snapshot) (path : Bytes) : Snapshot :=
  snapshot.filter fun entry => entry.1 ≠ path

/-- What is tracked as it is written down. -/
def bytes (snapshot : Snapshot) : Bytes :=
  snapshot.flatMap fun (path, leaf) =>
    Bytes.ofString (leaf.kind.digits ++ " ") ++ leaf.id ++ ascii ' ' :: path ++ [0]

/-- What is tracked, from what was written down. -/
def ofBytes (bytes : Bytes) : Snapshot :=
  (Text.splitAt 0 bytes).filterMap fun line => do
    let digits := line.takeWhile (· ≠ ascii ' ')
    let rest := line.drop (digits.length + 1)
    let id := rest.takeWhile (· ≠ ascii ' ')
    let kind ← Kind.ofDigits? digits
    return (rest.drop (id.length + 1), ⟨kind, id⟩)

/-- The entries of a directory and all directories below it, as objects; the last one is the directory
itself. `fuel` bounds how deep they lie. -/
def objects : Nat → Snapshot → List Object
  | 0, _ => [.tree []]
  | fuel + 1, snapshot =>
    let first (path : Bytes) : Bytes := path.takeWhile (· ≠ separator)
    let names := (snapshot.map fun entry => first entry.1).eraseDups
    let parts : List (Entry × List Object) := names.map fun name =>
      match snapshot.lookup name with
      | some leaf => (⟨name, leaf.kind, leaf.id⟩, [])
      | none =>
        let below := snapshot.filterMap fun (path, leaf) =>
          if first path = name then some (path.drop (name.length + 1), leaf) else none
        let inner := objects fuel below
        let id := ((inner.getLast?).getD (.tree [])).id
        (⟨name, .directory, id⟩, inner)
    let key (entry : Entry) : Bytes :=
      if entry.kind = .directory then entry.name ++ [separator] else entry.name
    let entries := (parts.map Prod.fst).mergeSort fun entry other => key entry ≤ key other
    parts.flatMap Prod.snd ++ [.tree entries]

/-- How deep the deepest path lies. -/
def depth (snapshot : Snapshot) : Nat :=
  snapshot.foldl (fun most entry => max most (entry.1.count separator)) 0

/-- The directories as objects; the last one is the top. -/
def trees (snapshot : Snapshot) : List Object :=
  objects (depth snapshot + 1) snapshot

/-- What a directory that is kept holds; `read?` gives what is kept. -/
def ofTree (read? : Id → Option Object) : Nat → Bytes → Id → Snapshot
  | 0, _, _ => []
  | fuel + 1, base, id =>
    match read? id with
    | some (.tree entries) =>
      entries.flatMap fun entry =>
        let path := base ++ entry.name
        match entry.kind with
        | .directory => ofTree read? fuel (path ++ [separator]) entry.id
        | kind => [(path, ⟨kind, entry.id⟩)]
    | _ => []

end Snapshot

end ChangelogSql.Repository
