import ChangelogSql.Files.Access

/-!
Changes of the tree itself: entries that are taken away, given another place or
one place more.
-/

namespace ChangelogSql.Files

/-- The last segment of a path that is not empty. -/
def lastSegment (path : Path) : Bytes :=
  ((Text.splitAt separator path.bytes).reverse.find? (· ≠ [])).getD []

/-- A path that ends in `.` or `..` names a directory by where it is seen from. -/
def endsRelative (path : Path) : Bool :=
  lastSegment path = [0x2E] || lastSegment path = [0x2E, 0x2E]

/-- A path that ends in a separator. -/
def isTrailed (path : Path) : Bool :=
  path.bytes.getLast? = some separator

namespace View

/-- The disk after a file, a link or a device lost the place at `path`. -/
def unlink (view : View) (path : Path) : Except Fault Disk := do
  let place ← view.disk.lookup false view.cwd path
  match place.node? with
  | none => .error .notFound
  | some (.directory ..) => .error .isDirectory
  | some _ => .ok (view.disk.erase place.location)

/-- The disk after an empty directory was taken away. -/
def removeDirectory (view : View) (path : Path) : Except Fault Disk := do
  if lastSegment path = [0x2E] then throw .invalid
  if lastSegment path = [0x2E, 0x2E] then throw .notEmpty
  let place ← view.disk.lookup false view.cwd (untrailed path)
  match place.node? with
  | none => throw .notFound
  | some (.directory _ .nil) =>
    if place.location = [] then throw .busy else return view.disk.erase place.location
  | some (.directory ..) => throw .notEmpty
  | some _ => throw .notDirectory

/-- The disk after the file at `source` was given one more place. -/
def link (view : View) (follow : Bool) (source target : Path) : Except Fault Disk := do
  let origin ← view.disk.lookup follow view.cwd source
  match stands : view.disk.node? origin.location with
  | none => throw .notFound
  | some node =>
    let goal ← view.disk.lookup false view.cwd target
    match goal.node?, node with
    | some _, _ => throw .alreadyExists
    | none, .directory .. => throw .notPermitted
    | none, _ => return view.disk.put goal.location node (Disk.node?_isTidy stands)

/-- The disk after a link to `target` was made at `path`. -/
def symlink (view : View) (target path : Path) : Except Fault Disk := do
  if target.bytes = [] then throw .notFound
  let place ← view.disk.lookup false view.cwd path
  match place.node? with
  | some _ => throw .alreadyExists
  | none => return view.disk.put place.location (.link target) rfl

/-- The disk after what stands at `source` was given the place at `target` instead. -/
def rename (view : View) (source target : Path) : Except Fault Disk := do
  if endsRelative source || endsRelative target then throw .busy
  let source' ← view.disk.lookup false view.cwd (untrailed source)
  match stands : view.disk.node? source'.location with
  | none => throw .notFound
  | some node =>
    let target' ← view.disk.lookup false view.cwd (untrailed target)
    let moved : Disk :=
      (view.disk.erase source'.location).put target'.location node (Disk.node?_isTidy stands)
    match node, target'.node? with
    | .directory .., other =>
      if source'.location = target'.location then return view.disk
      else if source'.location.isPrefixOf target'.location then throw .invalid
      else
        match other with
        | none | some (.directory _ .nil) => return moved
        | some (.directory ..) => throw .notEmpty
        | some _ => throw .notDirectory
    | _, some (.directory ..) => throw .isDirectory
    | node, other =>
      if isTrailed source || isTrailed target then throw .notDirectory
      match node, other with
      | .file number, some (.file number') =>
        if number = number' then return view.disk else return moved
      | _, _ => return moved

/-- The disk after the permission bits of what stands at `path` were changed. -/
def setMode (view : View) (path : Path) (change : Bool → Nat → Nat) : Except Fault Disk := do
  let place ← view.disk.lookup true view.cwd path
  match stands : view.disk.node? place.location with
  | none => throw .notFound
  | some (.file number) =>
    return view.disk.alterFile number fun file => { file with mode := change false file.mode }
  | some (.directory mode entries) =>
    return view.disk.put place.location (.directory (change true mode) entries)
      (Disk.node?_isTidy stands :)
  | some _ => return view.disk

end View

end ChangelogSql.Files
