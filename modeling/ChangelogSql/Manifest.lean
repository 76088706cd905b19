import ChangelogSql.Files.Access

/-!
The project a changelog belongs to: the nearest directory at or above it, within
the tree, that has a manifest.
-/

namespace ChangelogSql.Manifest

open Files

/-- The name of a project's manifest. -/
def fileName : Path :=
  Path.ofString "pom.xml"

/-- The directories that may hold the manifest of something in `start`, the nearest first: `start`
and what is above it, as long as that is within `root`. -/
def directories (start root : Path) : List Path :=
  start.ancestors.takeWhile (·.startsWith root)

/-- The nearest manifest. Only regular files count. -/
def nearest? (view : View) (start root : Path) : Option Path :=
  ((directories start root).map (·.join fileName)).find? view.isFile

end ChangelogSql.Manifest
