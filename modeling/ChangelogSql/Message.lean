import ChangelogSql.Path.Basic
import ChangelogSql.Text.Search

/-!
What a run tells the person who started it. A message is a fact about the run;
its wording and its colours are added only when it is printed.
-/

namespace ChangelogSql

/-- A way of setting off a piece of text on a terminal. -/
inductive Emphasis where
  | bold
  | green
  | yellow
  | cyan
  | red
  | boldGreen
  deriving DecidableEq

namespace Emphasis

/-- The sequence that ends every emphasis. -/
def reset : String :=
  "\x1b[0m"

/-- The sequence that begins an emphasis. -/
def start : Emphasis → String
  | .bold => "\x1b[1m"
  | .green => "\x1b[32m"
  | .yellow => "\x1b[33m"
  | .cyan => "\x1b[36m"
  | .red => "\x1b[31m"
  | .boldGreen => "\x1b[1;32m"

/-- Sets off a text where colours are wanted. A reset inside the text would end the emphasis early,
so it is begun again after each. -/
def apply (emphasis : Emphasis) (colored : Bool) (text : String) : String :=
  if colored then
    let inner := String.ofList
      (Text.replaceAll reset.toList (reset ++ emphasis.start).toList text.toList)
    emphasis.start ++ inner ++ reset
  else text

end Emphasis

/-- A fact about a run. -/
inductive Message where
  | noChangelogs (root : Path)
  | found (changelog : Path)
  | usingManifest (manifest : Path)
  | version (number : String)
  | cachedJar (jar : Path)
  | downloadingJar (jar : Path)
  | downloadOutput (output : String)
  | converted (changelog result : Path)
  | summary (changelogs manifests downloads : Nat)
  deriving DecidableEq

namespace Message

/-- The lines a message is printed as. -/
def render (colored : Bool) : Message → String
  | .noChangelogs root => "No xml liquibase migrations found under '" ++ root.shown ++ "'\n"
  | .found changelog =>
    "Found xml liquibase migration '" ++ Emphasis.bold.apply colored changelog.shown ++ "'\n"
  | .usingManifest manifest =>
    "Using pom '" ++ manifest.shown ++ "' to discover liquibase version\n"
  | .version number =>
    "Determined liquibase version to be " ++ Emphasis.yellow.apply colored number ++ "\n"
  | .cachedJar jar =>
    "Using cached liquify jar '" ++ Emphasis.cyan.apply colored jar.shown ++ "'\n"
  | .downloadingJar jar =>
    "Downloading liquify jar to '" ++ Emphasis.cyan.apply colored jar.shown ++ "'\n"
  | .downloadOutput output => output ++ "\n"
  | .converted changelog result =>
    Emphasis.green.apply colored "Converted" ++ " '" ++ changelog.shown ++ "' to sql ('"
      ++ result.shown ++ "')\n\n"
  | .summary changelogs manifests downloads =>
    Emphasis.boldGreen.apply colored "✓" ++ " " ++ toString changelogs ++ " migration(s) using "
      ++ toString manifests ++ " pom(s), " ++ toString downloads ++ " jar(s) downloaded\n"

end Message

end ChangelogSql
