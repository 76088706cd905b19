import ChangelogSql.Repository.Glob
import ChangelogSql.Repository.Session

/-!
What is left out of version control: patterns in files of the working tree and of
the repository. Of the patterns that match, the last one counts; what lies in a
directory that is left out cannot be taken in again.
-/

namespace ChangelogSql.Repository

open Text (ascii)
open Files

/-- A pattern for what is left out. -/
structure Exclusion where
  /-- The directory it is for, with a separator at its end unless it is the top. -/
  base : Bytes
  isNegated : Bool
  forDirectories : Bool
  /-- It is for whole paths, not only for the last segments of them. -/
  isAnchored : Bool
  pattern : List Glob.Element
  /-- Where it comes from: a file and a line, and how it was written. -/
  source : Bytes
  line : Nat
  text : Bytes

namespace Exclusion

/-- A line without the blanks at its end that no backslash protects. -/
def withoutBlanks (line : Bytes) : Bytes :=
  let rec go : Bytes → Bytes
    | 0x20 :: 0x5C :: rest => 0x20 :: 0x5C :: rest
    | 0x20 :: rest => go rest
    | rest => rest
  (go line.reverse).reverse

/-- The pattern that a line is. -/
def ofLine? (base source : Bytes) (number : Nat) (line : Bytes) : Option Exclusion :=
  let line := if line.getLast? = some 0x0D then line.dropLast else line
  let text := withoutBlanks line
  match text with
  | [] => none
  | first :: _ =>
    if first = ascii '#' then none
    else
      let isNegated := first = ascii '!'
      let body := if isNegated then text.drop 1 else text
      let forDirectories := 1 < body.length && body.getLast? = some separator
      let body := if forDirectories then body.dropLast else body
      let isAnchored := body.contains separator
      let body := if body.head? = some separator then body.drop 1 else body
      some ⟨base, isNegated, forDirectories, isAnchored, Glob.ofBytes false body, source, number,
        text⟩

/-- The patterns in a file. -/
def ofFile (base source content : Bytes) : List Exclusion :=
  let lines := Text.splitAt 0x0A content
  ((List.range lines.length).zip lines).filterMap fun (index, line) =>
    ofLine? base source (index + 1) line

/-- A pattern is for a path. -/
def isFor (exclusion : Exclusion) (path : Bytes) (isDirectory : Bool) : Bool :=
  if exclusion.forDirectories && !isDirectory then false
  else
    match Text.afterBlock? exclusion.base path with
    | none => false
    | some rest =>
      let text :=
        if exclusion.isAnchored then rest
        else (rest.reverse.takeWhile (· ≠ separator)).reverse
      rest ≠ [] && Glob.accepts exclusion.pattern text

/-- The pattern that counts for a path. -/
def verdict? (exclusions : List Exclusion) (path : Bytes) (isDirectory : Bool) :
    Option Exclusion :=
  (exclusions.reverse).find? fun exclusion => exclusion.isFor path isDirectory

/-- The pattern by which a path is left out, or taken in again. -/
def decisive? (exclusions : List Exclusion) (path : Bytes) (isDirectory : Bool) :
    Option Exclusion :=
  let above := (directoriesOf path).findSome? fun directory =>
    (verdict? exclusions directory true).filter fun exclusion => !exclusion.isNegated
  above.or (verdict? exclusions path isDirectory)

/-- A path is left out. -/
def excludes (exclusions : List Exclusion) (path : Bytes) (isDirectory : Bool) : Bool :=
  (decisive? exclusions path isDirectory).any fun exclusion => !exclusion.isNegated

end Exclusion

/-- The name of the files of a working tree that say what is left out. -/
def exclusionName : Bytes :=
  Bytes.ofString ".gitignore"

/-- All patterns for what is left out, those that count more behind the others. -/
def Work.exclusions : Work (List Exclusion) := do
  let session ← get
  let own := Bytes.ofString "info/exclude"
  let general := ((← Work.own? own).map
    (Exclusion.ofFile [] (Bytes.ofString ".git/info/exclude"))).getD []
  let files := (← Work.found).filterMap fun (path, found) =>
    let base := path.take (path.length - exclusionName.length)
    if base ++ exclusionName = path && (base = [] || base.getLast? = some separator) then
      some (base, path, found.content session.view.disk)
    else none
  let depth (base : Bytes) : Nat := base.count separator
  let files := files.mergeSort fun file other => depth file.1 ≤ depth other.1
  return general ++ files.flatMap fun (base, path, content) => Exclusion.ofFile base path content

end ChangelogSql.Repository
