import ChangelogSql.Failure
import ChangelogSql.Files.Access
import ChangelogSql.Jar

/-!
What a run is asked to do: which tree to convert, where jars are kept and where
they come from. The root is settled before anything else, so that every path
below it is absolute and has one spelling.
-/

namespace ChangelogSql

open Files

structure Settings where
  root : Path
  artifactDirectory : Path
  baseUrl : String
  deriving DecidableEq

namespace Settings

/-- Where jars are kept when nothing else is asked for. -/
def defaultArtifactDirectory : Path :=
  Path.ofString "/tmp"

/-- The path that is meant where none is given: the working directory. -/
def givenRoot (view : View) : Option Path → Except Failure Path
  | some root => .ok root
  | none =>
    match view.currentDirectory with
    | .ok root => .ok root
    | .error fault => .error (.unreadable (Path.ofString ".") fault)

/-- Settles the root; a directory for jars is taken as it is written. -/
def settle (view : View) (root? artifactDirectory? : Option Path) : Except Failure Settings := do
  let root ← givenRoot view root?
  match view.canonical root with
  | .error fault => .error (.unreadable root fault)
  | .ok canonical =>
    .ok {
      root := canonical
      artifactDirectory := artifactDirectory?.getD defaultArtifactDirectory
      baseUrl := Jar.releases }

end Settings

end ChangelogSql
