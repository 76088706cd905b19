import ChangelogSql.Files.Access
import ChangelogSql.Path.FileName

/-!
What makes a file a changelog: it is a regular file with the right extension,
it is not something a build has put out, and the marker element stands in its
text.
-/

namespace ChangelogSql.Discovery

open Files

/-- The extension of a changelog. -/
def extension : String :=
  "xml"

/-- The element whose name tells a changelog from other files. -/
def marker : String :=
  "databaseChangeLog"

/-- The piece of a path that only copies made by a build have. -/
def buildOutput : String :=
  "target/classes"

/-- The path ends in the extension of a changelog. -/
def hasExtension (path : Path) : Bool :=
  path.extension? = some (Bytes.ofString extension)

/-- The part of `path` below `root`, or all of it where it is not below, names build output. A
backslash counts as a separator. -/
def isBuildOutput (root path : Path) : Bool :=
  let below := (path.stripBase? root).getD path
  let text := (Text.Utf8.decodeLossy below.bytes).map fun c => if c = '\\' then '/' else c
  Text.occursIn buildOutput.toList text

/-- The marker stands in the text of a file's bytes. -/
def isMarked (content : Bytes) : Bool :=
  Text.occursIn marker.toList (Text.Utf8.decodeLossy content)

/-- The file at `path` can be read and is marked. -/
def looksLikeChangelog (view : View) (path : Path) : Except Fault Bool :=
  isMarked <$> view.read path

end ChangelogSql.Discovery
