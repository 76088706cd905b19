import ChangelogSql.Files.Access

/-!
The walk over a tree: depth first, the entries of a directory in the order of
their names, and what a directory holds right after the directory itself.
Symbolic links are listed and not entered, except that the walk enters the
directory its root leads to. The mode of a directory is not looked at: the trees
are those of a privileged process, which lists every directory. An entry that
another process could not look at is an unreadable visit.
-/

namespace ChangelogSql.Discovery

open Files

/-- One step of a walk: an entry, or a path that could not be looked at. -/
inductive Visit where
  | entry (path : Path)
  | unreadable (path : Path) (fault : Fault)
  deriving DecidableEq

mutual

/-- The visits to everything below a node that stands at `path`, in walk order. A directory whose
path is too long to be asked for cannot be looked into. -/
def visitsBelow (path : Path) : Node → List Visit
  | .directory _ entries =>
    if pathLimit ≤ path.bytes.length then [.unreadable path .nameTooLong]
    else ((visitsOf path entries).mergeSort fun group other => group.1.le other.1).flatMap (·.2)
  | _ => []

/-- For each entry of a directory at `path` its name, and the visit to it followed by those to
everything below it. -/
def visitsOf (path : Path) : Entries → List (Name × List Visit)
  | .nil => []
  | .cons name node rest =>
    let inner := path.join ⟨name.bytes⟩
    (name, .entry inner :: visitsBelow inner node) :: visitsOf path rest

end

/-- The whole walk from `root`, which comes first. -/
def visits (view : View) (root : Path) : List Visit :=
  match view.linkStat root with
  | .error fault => [.unreadable root fault]
  | .ok (.link _) =>
    match view.stat root with
    | .error fault => [.unreadable root fault]
    | .ok node => .entry root :: visitsBelow root node
  | .ok node => .entry root :: visitsBelow root node

end ChangelogSql.Discovery
