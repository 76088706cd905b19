import ChangelogSql.Files.Access

/-!
What can be told about anything that stands in a file system, of whatever kind
it is.
-/

namespace ChangelogSql.Files

/-- The kinds of things in a file system. -/
inductive Kind where
  | file
  | directory
  | link
  | device
  | queue
  deriving DecidableEq

/-- What makes two places places of the same thing. -/
inductive Identity where
  | file (number : Nat)
  | place (location : Location)
  | device (device : Device)
  deriving DecidableEq

/-- What can be told about a thing. -/
structure Facts where
  kind : Kind
  /-- The permission bits. -/
  mode : Nat
  size : Nat
  modified : Nat
  identity : Identity

namespace Disk

/-- How many bytes a file is said to have. -/
def sizeOf (disk : Disk) (number : Nat) : Nat :=
  match disk.file? number with
  | some ⟨.bytes bytes, _, _⟩ => bytes.length
  | some ⟨.program _, _, _⟩ => 35000
  | _ => 0

/-- What can be told about a thing at a place. -/
def facts (disk : Disk) (location : Location) : Node → Facts
  | .file number =>
    let file := (disk.file? number).getD ⟨.bytes [], 0, 0⟩
    ⟨.file, file.mode, disk.sizeOf number, file.modified, .file number⟩
  | .device device => ⟨.device, 0o666, 0, 0, .device device⟩
  | .queue _ => ⟨.queue, plainMode, 0, 0, .place location⟩
  | .link target => ⟨.link, 0o777, target.bytes.length, 0, .place location⟩
  | .directory mode _ => ⟨.directory, mode, 4096, 0, .place location⟩

mutual

/-- How many places below a node a file has. -/
def placesIn (number : Nat) : Node → Nat
  | .file other => if other = number then 1 else 0
  | .directory _ entries => placesAmong number entries
  | _ => 0

/-- How many places a file has in and below some entries. -/
def placesAmong (number : Nat) : Entries → Nat
  | .nil => 0
  | .cons _ node rest => placesIn number node + placesAmong number rest

end

/-- How many places a file has. -/
def places (disk : Disk) (number : Nat) : Nat :=
  placesAmong number disk.top

end Disk

namespace View

/-- What can be told about what a path leads to. -/
def facts (view : View) (follow : Bool) (path : Path) : Except Fault Facts := do
  let place ← view.disk.lookup follow view.cwd path
  match place.node? with
  | none => .error .notFound
  | some node => .ok (view.disk.facts place.location node)

end View

end ChangelogSql.Files
