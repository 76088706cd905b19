import ChangelogSql.Path.FileName

/-!
Where a conversion happens and what it leaves behind. The converter is started
in the directory of the changelog and writes its result beside it.
-/

namespace ChangelogSql.Output

/-- The extension of a converted changelog, and the name of the format to convert to. -/
def format : String :=
  "sql"

/-- The database whose dialect is written. -/
def dialect : String :=
  "mysql"

/-- The directory a changelog is converted in: its parent, or the current directory for a path
without one. -/
def workingDirectory (changelog : Path) : Path :=
  match changelog.parent? with
  | none => Path.ofString "."
  | some directory => if directory.bytes = [] then Path.ofString "." else directory

/-- The file a changelog is converted to. -/
def pathFor (changelog : Path) : Path :=
  changelog.withExtension (Bytes.ofString format)

end ChangelogSql.Output
