import ChangelogSql.Repository.Delta
import ChangelogSql.Repository.Scope
import ChangelogSql.Text.Hunk

/-!
What has changed, as it is shown: line by line with some lines around, as a count
with a bar for every path, or by names alone.
-/

namespace ChangelogSql.Repository

open Text (ascii)
open Text.Difference (linesOf hunks)

namespace Patch

/-- How changes are shown line by line. -/
structure Look where
  /-- How many lines are shown around a change. -/
  context : Nat
  /-- What of a line counts when it is compared. -/
  key : Bytes → Bytes
  /-- What stands in front of paths on both sides. -/
  oldFront : Bytes
  newFront : Bytes
  /-- Names of what is kept are not shortened. -/
  isFull : Bool
  /-- Everything is taken for text. -/
  isText : Bool

def Look.plain : Look :=
  ⟨3, fun line => line, Bytes.ofString "a/", Bytes.ofString "b/", false, false⟩

/-- The changes between lines, as far as what counts of them differs. -/
def Look.changes (look : Look) (old new : Array Bytes) : List Text.Difference.Change :=
  Text.Difference.ofLines .best (old.map look.key) (new.map look.key)

/-- A content that is not shown line by line. -/
def isBinary (bytes : Bytes) : Bool :=
  (bytes.take 8000).contains 0

/-- The line that a hunk is in: the last one before it that begins with a letter. -/
def heading (lines : Array Bytes) (start : Nat) : Bytes :=
  let isHeading (line : Bytes) : Bool :=
    line.head?.any fun b => Text.Ascii.isNameStart b || b = ascii '$'
  match (lines.extract 0 start).toList.reverse.find? isHeading with
  | some line =>
    let text := (line.take 80).reverse.dropWhile Text.Ascii.isSpace
    ascii ' ' :: text.reverse
  | none => []

/-- The changes from one content to another, with some lines around them. -/
def unified (look : Look) (hasHeading : Bool) (old new : Bytes) : Bytes :=
  let old := linesOf old
  let new := linesOf new
  (hunks look.context (fun _ => false) old.size new.size (look.changes old new)).flatMap fun hunk =>
    hunk.shown (if hasHeading then heading old hunk.oldStart else []) old new

/-- A path behind what stands in front of it on its side. -/
def sided (front path : Bytes) : Bytes :=
  shownPath false (front ++ path)

/-- A path in front of the lines; a tab comes behind one with blanks. -/
def titled (front : Bytes) (side? : Option Side) : Bytes :=
  match side? with
  | none => Bytes.ofString "/dev/null"
  | some side =>
    let text := sided front side.path
    if side.path.contains (ascii ' ') && text.head? ≠ some 0x22 then text ++ [0x09] else text

/-- A line of the head. -/
def headLine (words : String) (rest : Bytes) : Bytes :=
  Bytes.ofString words ++ rest ++ [0x0A]

def modeOf (side : Side) : Bytes :=
  Bytes.ofString side.leaf.kind.fullDigits

/-- What has changed of kinds and names, as lines of the head. -/
def nameLines (delta : Delta) : Bytes :=
  let modes :=
    match delta.old?, delta.new? with
    | some old, some new =>
      if old.leaf.kind = new.leaf.kind then []
      else headLine "old mode " (modeOf old) ++ headLine "new mode " (modeOf new)
    | some old, none => headLine "deleted file mode " (modeOf old)
    | none, some new => headLine "new file mode " (modeOf new)
    | none, none => []
  match delta.change with
  | .renamed score =>
    modes ++ headLine "similarity index " (Bytes.ofString s!"{score}%")
      ++ headLine "rename from " (shownPath false delta.oldPath)
      ++ headLine "rename to " (shownPath false delta.path)
  | _ => modes

/-- The line with the names of what is kept. -/
def indexLine (look : Look) (delta : Delta) : Bytes :=
  let oldId := (delta.old?.map fun side => side.leaf.id).getD noId
  let newId := (delta.new?.map fun side => side.leaf.id).getD noId
  let mode :=
    match delta.old?, delta.new? with
    | some old, some new =>
      if old.leaf.kind = new.leaf.kind then ascii ' ' :: modeOf new else []
    | _, _ => []
  let shown (id : Id) : Bytes := if look.isFull then id else Work.short id
  if oldId = newId then []
  else headLine "index " (shown oldId ++ Bytes.ofString ".." ++ shown newId ++ mode)

/-- A change with all its lines. One of which nothing counts is not shown. -/
def whole (look : Look) (delta : Delta) : Bytes :=
  let oldBytes := (delta.old?.map Side.bytes).getD []
  let newBytes := (delta.new?.map Side.bytes).getD []
  let names := nameLines delta
  let index := indexLine look delta
  let title := Bytes.ofString "diff --git " ++ sided look.oldFront delta.oldPath
    ++ ascii ' ' :: sided look.newFront delta.path ++ [0x0A]
  if oldBytes = newBytes then title ++ names ++ index
  else if !look.isText && (isBinary oldBytes || isBinary newBytes) then
    let named (front : Bytes) (side? : Option Side) : Bytes :=
      match side? with
      | none => Bytes.ofString "/dev/null"
      | some side => sided front side.path
    title ++ names ++ index ++ Bytes.ofString "Binary files " ++ named look.oldFront delta.old?
      ++ Bytes.ofString " and " ++ named look.newFront delta.new?
      ++ Bytes.ofString " differ\n"
  else
    let lines := unified look true oldBytes newBytes
    if lines = [] then
      if names = [] then [] else title ++ names ++ index
    else
      title ++ names ++ index ++ headLine "--- " (titled look.oldFront delta.old?)
        ++ headLine "+++ " (titled look.newFront delta.new?) ++ lines

/-- A change of kind is shown as something that went and something that came. -/
def split (delta : Delta) : List Delta :=
  match delta.change with
  | .retyped => [⟨.deleted, delta.old?, none⟩, ⟨.added, none, delta.new?⟩]
  | _ => [delta]

/-- Changes with all their lines. -/
def all (look : Look) (deltas : List Delta) : Bytes :=
  (deltas.flatMap split).flatMap (whole look)

/-- How many lines or, in what is not made of lines, bytes came and went. -/
structure Count where
  name : Bytes
  added : Nat
  deleted : Nat
  isBinary : Bool

/-- Two names as one, with what they share written once. -/
def joinedNames (old new : Bytes) : Bytes :=
  let shared := ((List.range (old.length + 1)).filter fun count =>
    old.take count = new.take count && (old.take count).getLast? = some separator).getLast?
  let front := shared.getD 0
  let least := front - (if front = 0 then 0 else 1)
  let tails := (List.range (old.length + 1)).filter fun count =>
    let tail := old.drop (old.length - count)
    tail.head? = some separator && count ≤ new.length && tail = new.drop (new.length - count)
      && least ≤ old.length - count && least ≤ new.length - count
  let back := tails.getLast?.getD 0
  let middle (name : Bytes) : Bytes := (name.take (name.length - back)).drop front
  let change := middle old ++ Bytes.ofString " => " ++ middle new
  if front + back = 0 then change
  else
    old.take front ++ 0x7B :: change ++ 0x7D :: old.drop (old.length - back)

/-- The name that a change is counted under. -/
def countedName (delta : Delta) : Bytes :=
  match delta.change with
  | .renamed _ =>
    if (delta.oldPath ++ delta.path).any isUnusual then
      shownPath false delta.oldPath ++ Bytes.ofString " => " ++ shownPath false delta.path
    else joinedNames delta.oldPath delta.path
  | _ => shownPath false delta.path

/-- What a change amounts to. -/
def count (look : Look) (delta : Delta) : Count :=
  let oldBytes := (delta.old?.map Side.bytes).getD []
  let newBytes := (delta.new?.map Side.bytes).getD []
  if isBinary oldBytes || isBinary newBytes then
    if oldBytes = newBytes then ⟨countedName delta, 0, 0, true⟩
    else ⟨countedName delta, newBytes.length, oldBytes.length, true⟩
  else
    let changes := look.changes (linesOf oldBytes) (linesOf newBytes)
    ⟨countedName delta, Numeral.total (changes.map (·.newCount)), Numeral.total (changes.map (·.oldCount)), false⟩

/-- The share of a number in a width, at least one where there is something. -/
def scaled (number width most : Nat) : Nat :=
  if number = 0 then 0 else 1 + number * (width - 1) / most

/-- How many columns the names, the numbers and the bars take. -/
structure Columns where
  name : Nat
  number : Nat
  bar : Nat

/-- The columns for some counts, in eighty columns. -/
def columns (counts : List Count) : Columns :=
  let digits (number : Nat) : Nat := (toString number).length
  let longest := counts.foldl (fun most count => max most count.name.length) 0
  let binaries := counts.filter (·.isBinary)
  let plain := counts.filter fun count => !count.isBinary
  let binaryWidth :=
    binaries.foldl (fun most count => max most (14 + digits count.added + digits count.deleted)) 0
  let most := plain.foldl (fun most count => max most (count.added + count.deleted)) 0
  let number := max (digits most) (if binaries.isEmpty then 0 else 3)
  let width := 80
  let bar := if binaryWidth < most + 4 then most else binaryWidth - 4
  if longest + number + 6 + bar ≤ width then ⟨longest, number, bar⟩
  else
    let bar := if width * 3 / 8 - number - 6 < bar then max 6 (width * 3 / 8 - number - 6) else bar
    if width - number - 6 - bar < longest then ⟨width - number - 6 - bar, number, bar⟩
    else ⟨longest, number, width - number - 6 - longest⟩

def padded (width : Nat) (text : Bytes) : Bytes :=
  text ++ List.replicate (width - text.length) (ascii ' ')

def aligned (width : Nat) (text : Bytes) : Bytes :=
  List.replicate (width - text.length) (ascii ' ') ++ text

/-- The line of a count. -/
def countLine (columns : Columns) (most : Nat) (count : Count) : Bytes :=
  let name :=
    if columns.name < count.name.length then
      let tail := count.name.drop (count.name.length - (columns.name - 3))
      let from' := tail.dropWhile (· ≠ separator)
      Bytes.ofString "..." ++ if from' = [] then tail else from'
    else count.name
  let front := ascii ' ' :: padded columns.name name ++ Bytes.ofString " | "
  if count.isBinary then
    let sizes :=
      if count.added = 0 && count.deleted = 0 then []
      else Bytes.ofString s!" {count.deleted} -> {count.added} bytes"
    front ++ aligned columns.number (Bytes.ofString "Bin") ++ sizes ++ [0x0A]
  else
    let total := count.added + count.deleted
    let (added, deleted) :=
      if most < columns.bar then (count.added, count.deleted)
      else
        let whole := scaled total columns.bar most
        let whole := if whole < 2 && count.added ≠ 0 && count.deleted ≠ 0 then 2 else whole
        if count.added < count.deleted then
          let added := scaled count.added columns.bar most
          (added, whole - added)
        else
          let deleted := scaled count.deleted columns.bar most
          (whole - deleted, deleted)
    front ++ aligned columns.number (Text.Ascii.ofNat total)
      ++ (if total = 0 then [] else [ascii ' ']) ++ List.replicate added (ascii '+')
      ++ List.replicate deleted (ascii '-') ++ [0x0A]

def several (number : Nat) : String :=
  if number = 1 then "" else "s"

/-- The sum of some counts as a line. -/
def sumLine (counts : List Count) : Bytes :=
  let plain := counts.filter fun count => !count.isBinary
  let added := Numeral.total (plain.map (·.added))
  let deleted := Numeral.total (plain.map (·.deleted))
  let files := counts.length
  let parts :=
    if files = 0 then " 0 files changed"
    else
      s!" {files} file{several files} changed"
        ++ (if added ≠ 0 || deleted = 0 then s!", {added} insertion{several added}(+)" else "")
        ++ (if deleted ≠ 0 || added = 0 then s!", {deleted} deletion{several deleted}(-)" else "")
  Bytes.ofString (parts ++ "\n")

/-- Changes as counts with bars. -/
def bars (look : Look) (deltas : List Delta) : Bytes :=
  let counts := deltas.map (count look)
  let plain := counts.filter fun count => !count.isBinary
  let most := plain.foldl (fun most count => max most (count.added + count.deleted)) 0
  if counts.isEmpty then []
  else counts.flatMap (countLine (columns counts) most) ++ sumLine counts

/-- The sum of changes alone. -/
def sum (look : Look) (deltas : List Delta) : Bytes :=
  if deltas.isEmpty then [] else sumLine (deltas.map (count look))

/-- The byte that ends a path in a list, and whether paths are quoted there. -/
structure Ending where
  byte : UInt8
  isQuoted : Bool

def Ending.path (ending : Ending) (path : Bytes) : Bytes :=
  if ending.isQuoted then shownPath false path else path

/-- Changes as numbers. -/
def numbers (look : Look) (ending : Ending) (deltas : List Delta) : Bytes :=
  deltas.flatMap fun delta =>
    let count := count look delta
    let figure (number : Nat) : Bytes :=
      if count.isBinary then [ascii '-'] else Text.Ascii.ofNat number
    let names :=
      match delta.change with
      | .renamed _ =>
        if ending.isQuoted then count.name else 0 :: delta.oldPath ++ 0 :: delta.path
      | _ => ending.path delta.path
    figure count.added ++ 0x09 :: figure count.deleted ++ 0x09 :: names ++ [ending.byte]

/-- The letter of a change with its score. -/
def shownLetter (change : Change) : Bytes :=
  match change with
  | .renamed score =>
    let digits := toString score
    Bytes.ofString ("R" ++ "".pushn '0' (3 - digits.length) ++ digits)
  | change => [change.letter]

/-- Changes by names and letters. -/
def letters (ending : Ending) (deltas : List Delta) : Bytes :=
  let between : UInt8 := if ending.isQuoted then 0x09 else 0
  deltas.flatMap fun delta =>
    let names :=
      match delta.change with
      | .renamed _ => [delta.oldPath, delta.path]
      | _ => [delta.path]
    shownLetter delta.change
      ++ names.flatMap (fun name => between :: ending.path name) ++ [ending.byte]

/-- Changes by names alone. -/
def names (ending : Ending) (deltas : List Delta) : Bytes :=
  deltas.flatMap fun delta => ending.path delta.path ++ [ending.byte]

/-- Changes with kinds and names of what is kept. What is loose has none; it stands on the new side, or
on the old one of what is shown the other way round. -/
def raw (ending : Ending) (isFull isReversed : Bool) (isLoose : Bytes → Bool)
    (deltas : List Delta) : Bytes :=
  let mode (side? : Option Side) : Bytes := (side?.map modeOf).getD (Bytes.ofString "000000")
  let id (side? : Option Side) : Bytes :=
    let id := (side?.map fun side => side.leaf.id).getD noId
    if isFull then id else Work.short id
  let named (isHere : Bool) (side? : Option Side) : Option Side :=
    side?.filter fun side => !(isHere && isLoose side.path)
  deltas.flatMap fun delta =>
    Bytes.ofString ":" ++ mode delta.old? ++ ascii ' ' :: mode delta.new? ++ ascii ' '
      :: id (named isReversed delta.old?) ++ ascii ' ' :: id (named (!isReversed) delta.new?)
      ++ ascii ' ' :: letters ending [delta]

/-- What has come, gone and changed its name or kind. -/
def summary (deltas : List Delta) : Bytes :=
  deltas.flatMap fun delta =>
    let line (text : Bytes) : Bytes := ascii ' ' :: text ++ [0x0A]
    let modes :=
      match delta.old?, delta.new? with
      | some old, some new =>
        if old.leaf.kind = new.leaf.kind then []
        else
          Bytes.ofString "mode change " ++ modeOf old ++ Bytes.ofString " => " ++ modeOf new
      | _, _ => []
    match delta.change, delta.old?, delta.new? with
    | .added, _, some new =>
      line (Bytes.ofString "create mode " ++ modeOf new ++ ascii ' ' :: shownPath false new.path)
    | .deleted, some old, _ =>
      line (Bytes.ofString "delete mode " ++ modeOf old ++ ascii ' ' :: shownPath false old.path)
    | .renamed score, _, _ =>
      line (Bytes.ofString "rename " ++ countedName delta ++ Bytes.ofString s!" ({score}%)")
        ++ if modes = [] then [] else line modes
    | _, _, _ =>
      if modes = [] then [] else line (modes ++ ascii ' ' :: shownPath false delta.path)

end Patch

end ChangelogSql.Repository
