import ChangelogSql.Files.Tree

/-!
From a path to a place. A lookup goes through the path's segments one by one
from where it starts, goes up at `..`, and follows symbolic links by putting
the target's segments in front of those that are left; a lookup follows at most
forty links. Silent segments are not idle here: whatever comes before a
separator must be a directory. Its mode is not looked at: a privileged process
searches every directory.
-/

namespace ChangelogSql.Files

/-- The longest name and the shortest refused path, in bytes. -/
def nameLimit : Nat := 255

def pathLimit : Nat := 4096

/-- How many links a lookup follows. -/
def linkLimit : Nat := 40

/-- Where a lookup ended, in a directory that exists, and what stands there. -/
structure Place where
  location : Location
  node? : Option Node

/-- The place a lookup starts from and the segments it goes through. -/
def start (cwd : Location) (path : Path) : Location × List Bytes :=
  (if path.isAbsolute then [] else cwd, Text.splitAt separator path.bytes)

/-- Goes through segments from a directory. `chase` goes on behind a link. -/
def walkWith (disk : Disk) (follow : Bool) (chase : Location → List Bytes → Except Fault Place) :
    Location → List Bytes → Except Fault Place
  | location, [] =>
    match disk.node? location with
    | none => .error .notFound
    | some node => .ok ⟨location, some node⟩
  | location, segment :: rest =>
    match disk.node? location with
    | none => .error .notFound
    | some (.directory ..) =>
      if Path.silent segment then walkWith disk follow chase location rest
      else if segment = [0x2E, 0x2E] then walkWith disk follow chase location.dropLast rest
      else if nameLimit < segment.length then .error .nameTooLong
      else
        match Name.ofBytes? segment with
        | none => .error .notFound
        | some name =>
          let inner := location ++ [name]
          match disk.node? inner with
          | none => if rest = [] then .ok ⟨inner, none⟩ else .error .notFound
          | some (.link target) =>
            if rest = [] && !follow then .ok ⟨inner, some (.link target)⟩
            else
              let (location, segments) := start location target
              chase location (segments ++ rest)
          | some _ => walkWith disk follow chase inner rest
    | some _ => .error .notDirectory

/-- Goes through segments from a directory, behind at most `links` links. -/
def walk (disk : Disk) (follow : Bool) : Nat → Location → List Bytes → Except Fault Place
  | 0 => walkWith disk follow fun _ _ => .error .tooManyLinks
  | links + 1 => walkWith disk follow (walk disk follow links)

/-- The place a path leads to, however long the path is. Unless `follow` is set, a link at the very
end is not followed. -/
def Disk.search (disk : Disk) (follow : Bool) (cwd : Location) (path : Path) :
    Except Fault Place :=
  if path.bytes.contains 0 then .error .nulInPath
  else if path.bytes = [] then .error .notFound
  else
    let (location, segments) := start cwd path
    walk disk follow linkLimit location segments

/-- The place a path leads to, where the path is not too long to be asked for in one piece. -/
def Disk.lookup (disk : Disk) (follow : Bool) (cwd : Location) (path : Path) :
    Except Fault Place :=
  if path.bytes.contains 0 then .error .nulInPath
  else if pathLimit ≤ path.bytes.length then .error .nameTooLong
  else disk.search follow cwd path

end ChangelogSql.Files
