import ChangelogSql.Files.Fault
import ChangelogSql.Path.Basic

/-!
What can end a run, and what is said about it. A failure has a message of its
own and a chain of causes, the outermost first.
-/

namespace ChangelogSql

open Files (Fault)

/-- Why a program could not be run: it is nowhere on the search path, or the system refused to
start it. -/
inductive LaunchFailure where
  | notFound (program : String)
  | refused (program : String) (fault : Fault)
  deriving DecidableEq

namespace LaunchFailure

/-- The program that could not be run. -/
def program : LaunchFailure → String
  | .notFound program => program
  | .refused program _ => program

def message : LaunchFailure → String
  | .notFound program => "'" ++ program ++ "' was not found on PATH"
  | .refused program _ => "failed to run '" ++ program ++ "'"

def causes : LaunchFailure → List String
  | .notFound _ => ["cannot find binary path"]
  | .refused _ fault => [fault.message]

end LaunchFailure

/-- Why a run ended. -/
inductive Failure where
  | notARepository (root : Path)
  | manifestNotFound (changelog : Path)
  | versionNotFound (manifest : Path)
  | download (url : String)
  | conversion (changelog : Path)
  | launch (failure : LaunchFailure)
  | unreadable (path : Path) (fault : Fault)
  deriving DecidableEq

namespace Failure

def message : Failure → String
  | .notARepository root => "Directory " ++ root.shown ++ " does not appear to be a git repository"
  | .manifestNotFound changelog =>
    "No pom.xml found in parent directories of '" ++ changelog.shown ++ "'"
  | .versionNotFound manifest =>
    "Unable to determine liquibase version from '" ++ manifest.shown ++ "'"
  | .download url => "Unable to fetch jar from url '" ++ url ++ "'"
  | .conversion changelog => "Error trying to convert '" ++ changelog.shown ++ "' to sql"
  | .launch failure => "Unable to start '" ++ failure.program ++ "'"
  | .unreadable path _ => "Failed to read '" ++ path.shown ++ "'"

/-- What stands behind a failure, the outermost cause first. -/
def causes : Failure → List String
  | .launch failure => failure.message :: failure.causes
  | .unreadable _ fault => [fault.message]
  | .notARepository _ | .manifestNotFound _ | .versionNotFound _ | .download _
  | .conversion _ => []

end Failure

end ChangelogSql
