import ChangelogSql.Output
import ChangelogSql.World

/-!
What a list of events comes to, seen from one side: what was asked, what was
recorded, and what reached a stream. Each side keeps the order of the events.
-/

namespace ChangelogSql

/-- A request as one line. -/
def Request.line : Request → String
  | .workingTree root => "git " ++ root.shown
  | .dependencies project => "mvn " ++ project.shown
  | .download url destination => "curl " ++ url ++ " -> " ++ destination.shown
  | .convert jar changelog =>
    "java " ++ jar.shown ++ " " ++ changelog.shown ++ " in "
      ++ (Output.workingDirectory changelog).shown

namespace Transcript

/-- What was asked. -/
def requests (events : List Event) : List Request :=
  events.filterMap fun
    | .asked request => some request
    | _ => none

/-- What was said. -/
def messages (events : List Event) : List Message :=
  events.filterMap fun
    | .said message => some message
    | _ => none

/-- What was recorded. -/
def records (events : List Event) : List Record :=
  events.filterMap fun
    | .aside (.record record) => some record
    | _ => none

/-- The bytes that reached a stream: messages go to the first one, and what collaborators write
goes where they wrote it. -/
def written (colored : Bool) (stream : Stream) (events : List Event) : Bytes :=
  events.flatMap fun
    | .said message => if stream = .out then Bytes.ofString (message.render colored) else []
    | .aside (.output other bytes) => if other = stream then bytes else []
    | _ => []

end Transcript

end ChangelogSql
