import ChangelogSql.Shell.Pattern
import ChangelogSql.Text.Search
import ChangelogSql.Files.Access

/-!
Fields: what a word comes to when everything in it has been replaced. What came
from outside quotes is split where separators stand, and fields that are
patterns become the names they match.
-/

namespace ChangelogSql.Shell

open Text (ascii)
open Files

/-- Something that comes of a part of a word. -/
inductive Fragment where
  /-- Letters that stay together. -/
  | fixed (letters : List Letter)
  /-- Letters that are split into fields. -/
  | loose (letters : List Letter)
  /-- A quotation, which makes a field even without letters. -/
  | mark
  /-- Some values, each a field of its own. -/
  | each (values : List Bytes)
  deriving DecidableEq

/-- Letters without a meaning in a pattern. -/
def inert (bytes : Bytes) : List Letter :=
  bytes.map fun byte => ⟨byte, false⟩

/-- Letters with a meaning in a pattern. -/
def active (bytes : Bytes) : List Letter :=
  bytes.map fun byte => ⟨byte, true⟩

/-- The bytes of letters. -/
def bytesOf (letters : List Letter) : Bytes :=
  letters.map Letter.byte

/-- Fields that are being put together. -/
structure Fields where
  /-- The last first. -/
  finished : List (List Letter)
  /-- The letters of the current field, the last first. -/
  current : List Letter
  /-- There is something in the current field, if only a quotation. -/
  hasBegun : Bool
  /-- What was split before were values that are fields of their own. -/
  isBehindEach : Bool

namespace Fields

def empty : Fields := ⟨[], [], false, false⟩

/-- Ends the current field, whether it has begun or not. -/
def close (fields : Fields) : Fields :=
  { fields with
    finished := fields.current.reverse :: fields.finished, current := [], hasBegun := false }

/-- Adds letters to the current field. -/
def add (fields : Fields) (letters : List Letter) : Fields :=
  { fields with
    current := letters.reverse ++ fields.current
    hasBegun := fields.hasBegun || !letters.isEmpty }

/-- A byte that separates fields. -/
def isSeparator (separators : Bytes) (b : UInt8) : Bool :=
  separators.contains b || b = 0

/-- A separator several of which are like one. -/
def isSoft (b : UInt8) : Bool :=
  b = ascii ' ' || b = ascii '\t' || b = 0x0A || b = 0

/-- Splits letters. Where `isSoftBefore` is set, a soft separator has just ended a field. -/
def split (separators : Bytes) : Bool → List Letter → Fields → Fields
  | _, [], fields => fields
  | isSoftBefore, letter :: rest, fields =>
    let b := letter.byte
    if !isSeparator separators b then
      split separators false rest (fields.add [letter])
    else if isSoftBefore then
      split separators (isSoft b) rest fields
    else if isSoft b && !fields.isBehindEach then
      if fields.hasBegun then split separators true rest fields.close
      else split separators false rest fields
    else split separators false rest fields.close

/-- Adds values that are fields of their own: the first goes on with the current field, and the last
one can be gone on with. -/
def addEach : List Bytes → Fields → Fields
  | [], fields => fields
  | [value], fields => { (fields.add (inert value)) with hasBegun := true }
  | value :: rest, fields => addEach rest (fields.add (inert value)).close

/-- Takes a fragment. -/
def take (separators : Bytes) (fields : Fields) : Fragment → Fields
  | .fixed letters => fields.add letters
  | .mark => { fields with hasBegun := true }
  | .loose letters => { split separators false letters fields with isBehindEach := false }
  | .each values => { addEach values fields with isBehindEach := true }

end Fields

/-- The fields that fragments make. -/
def fieldsOf (separators : Bytes) (fragments : List Fragment) : List (List Letter) :=
  let fields := fragments.foldl (Fields.take separators) .empty
  let fields := if fields.hasBegun then fields.close else fields
  fields.finished.reverse

/-- The letters of fragments as one text. -/
def lettersOf (fragments : List Fragment) : List Letter :=
  fragments.flatMap fun
    | .fixed letters | .loose letters => letters
    | .mark => []
    | .each values => inert (Text.joinWith (ascii ' ') values)

/-- The names in a directory that a pattern matches, in order. A leading dot has to be matched by
a dot. -/
def matchingNames (view : View) (directory : Bytes) (letters : List Letter) : List Bytes :=
  let pattern := Pattern.ofLetters letters
  let directory := if directory = [] then Path.ofString "." else ⟨directory⟩
  match view.stat directory with
  | .ok (.directory _ entries) =>
    let names := [ascii '.'] :: [ascii '.', ascii '.'] ::
      entries.toList.map fun entry => entry.1.bytes
    let fits (name : Bytes) : Bool :=
      (name.head? ≠ some (ascii '.') || letters.head?.map Letter.byte = some (ascii '.'))
        && Pattern.accepts pattern name
    (names.filter fits).mergeSort fun name other => name ≤ other
  | _ => []

/-- The existing paths that segments match, each continuing `base`. -/
def matchingPaths (view : View) (base : Bytes) : List (List Letter) → List Bytes
  | [] => if (view.linkStat ⟨base⟩).isOk then [base] else []
  | segment :: rest =>
    let slash := if rest.isEmpty then [] else [separator]
    if Pattern.isPattern segment then
      (matchingNames view base segment).flatMap fun name =>
        matchingPaths view (base ++ name ++ slash) rest
    else matchingPaths view (base ++ bytesOf segment ++ slash) rest

/-- The segments of a path, some of them patterns. -/
def segmentsOf : List Letter → List (List Letter)
  | [] => [[]]
  | letter :: rest =>
    if letter.byte = separator then [] :: segmentsOf rest
    else
      match segmentsOf rest with
      | [] => [[letter]]
      | segment :: others => (letter :: segment) :: others

/-- A field as the paths it matches, or as itself where it matches none. -/
def pathsOf (view : View) (letters : List Letter) : List Bytes :=
  if Pattern.isPattern letters then
    match matchingPaths view [] (segmentsOf letters) with
    | [] => [bytesOf letters]
    | found => found
  else [bytesOf letters]

end ChangelogSql.Shell
