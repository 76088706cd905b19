import ChangelogSql.Text.Search

/-!
The Liquibase version a project depends on, read from the text in which its
build tool lists the dependencies. The first coordinate of the core library
decides, whether or not a version follows it.
-/

namespace ChangelogSql.Version

/-- The coordinate of the core library, up to where its version begins. -/
def coordinate : String :=
  "org.liquibase:liquibase-core:jar:"

/-- A character of a version: a digit or a dot. -/
def isVersionChar (c : Char) : Bool :=
  c = '.' || ('0' ≤ c && c ≤ '9')

/-- The longest run of version characters after the first coordinate, where there is a coordinate
and the run is not empty. A later coordinate is never looked at. -/
def inListing? (listing : String) : Option String :=
  match Text.afterFirst? coordinate.toList listing.toList with
  | none => none
  | some rest =>
    match rest.takeWhile isVersionChar with
    | [] => none
    | run => some (String.ofList run)

end ChangelogSql.Version
