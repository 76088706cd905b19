import ChangelogSql.Path.FileName

/-!
The converter's jar for one Liquibase version: what its file is called, where it
is kept and where it comes from.
-/

namespace ChangelogSql

/-- A jar of the converter. -/
structure Jar where
  fileName : String
  path : Path
  url : String
  deriving DecidableEq

namespace Jar

/-- Where released jars are published. -/
def releases : String :=
  "https://github.com/jhaber/liquify/releases/download/0.6"

/-- A text without the slashes it ends in. -/
def withoutTrailingSlashes (text : String) : String :=
  String.ofList (text.toList.reverse.dropWhile (· = '/')).reverse

/-- The jar for `version`, kept in `directory` and published under `base`. Exactly one slash
stands between the base and the file name. -/
def forVersion (version : String) (directory : Path) (base : String) : Jar :=
  let fileName := "liquify-" ++ version ++ ".jar"
  { fileName
    path := directory.join (Path.ofString fileName)
    url := withoutTrailingSlashes base ++ "/" ++ fileName }

end Jar

end ChangelogSql
