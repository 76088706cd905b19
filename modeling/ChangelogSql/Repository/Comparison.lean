import ChangelogSql.Repository.Arguments
import ChangelogSql.Repository.History
import ChangelogSql.Repository.Standing

/-!
Comparing: two commits, a commit with what is staged, or either with the working
tree. What has changed can be shown in several forms at once; these come in a
fixed order.
-/

namespace ChangelogSql.Repository

open Text (ascii)
open Files
open Utility (Form Given toggle setting)

/-- What is said of each changed path in one line. -/
inductive Roll where
  | names
  | letters
  | raw
  deriving DecidableEq

/-- In which forms changes are shown. -/
structure Showing where
  roll? : Option Roll
  hasNumbers : Bool
  hasBars : Bool
  hasSum : Bool
  hasSummary : Bool
  hasPatch : Bool
  look : Patch.Look
  ending : Patch.Ending
  detectsRenames : Bool
  isReversed : Bool
  /-- Letters of changes that are shown, or in small letters those that are not. -/
  filter : Bytes

namespace Showing

def forms : List Form :=
  [toggle "p" ["patch"], toggle "u", ⟨"U", ["unified"], .value⟩, toggle "s" ["no-patch"],
    toggle "raw" ["raw"], ⟨"stat", ["stat"], .perhaps⟩, toggle "numstat" ["numstat"],
    toggle "shortstat" ["shortstat"], toggle "summary" ["summary"],
    toggle "names" ["name-only"], toggle "letters" ["name-status"],
    toggle "patched" ["patch-with-stat"], toggle "z", ⟨"M", ["find-renames"], .perhaps⟩,
    ⟨"C", ["find-copies"], .perhaps⟩, toggle "asked" ["find-copies-harder"],
    ⟨"B", ["break-rewrites"], .perhaps⟩, toggle "unnamed" ["no-renames"], toggle "R",
    toggle "exit" ["exit-code"], toggle "quiet" ["quiet"], ⟨"color", ["color"], .perhaps⟩,
    toggle "colorless" ["no-color"], setting "filter" ["diff-filter"],
    toggle "w" ["ignore-all-space"], toggle "b" ["ignore-space-change"],
    toggle "trail" ["ignore-space-at-eol"], toggle "return" ["ignore-cr-at-eol"],
    toggle "plain" ["no-ext-diff", "ext-diff", "textconv", "no-textconv", "minimal", "patience",
      "histogram", "indent-heuristic", "no-indent-heuristic", "no-color-moved",
      "function-context", "no-relative"],
    toggle "a" ["text"], setting "front" ["src-prefix"], setting "behind" ["dst-prefix"],
    toggle "bare" ["no-prefix"], toggle "full" ["full-index"], toggle "binary" ["binary"],
    setting "algorithm" ["diff-algorithm"], ⟨"abbrev", ["abbrev"], .perhaps⟩,
    setting "width" ["stat-width", "stat-name-width", "stat-graph-width", "stat-count"],
    ⟨"relative", ["relative"], .perhaps⟩, setting "ignored" ["ignore-submodules"],
    setting "l", setting "S", setting "G", toggle "W", toggle "r", toggle "t",
    toggle "blanks" ["ignore-blank-lines"], ⟨"words", ["word-diff"], .perhaps⟩]

def isBlank (b : UInt8) : Bool := Text.Ascii.isSpace b

def trimmedEnd (line : Bytes) : Bytes := (line.reverse.dropWhile isBlank).reverse

/-- A line with one blank in place of several. -/
def squeezed : Bytes → Bytes
  | [] => []
  | b :: rest =>
    let others := squeezed rest
    if isBlank b then
      if others.head? = some 0x20 then others else 0x20 :: others
    else b :: others

/-- What of a line counts when it is compared. -/
def keyOf (given : Given) (line : Bytes) : Bytes :=
  if given.has "w" then line.filter fun b => !isBlank b
  else if given.has "b" then squeezed (trimmedEnd line)
  else if given.has "trail" then trimmedEnd line
  else if given.has "return" then
    if line.drop (line.length - 2) = [0x0D, 0x0A] then line.take (line.length - 2) ++ [0x0A]
    else line
  else line

/-- The forms that options ask for; where they ask for none, lines are shown if `isPatch`. -/
def ofGiven (given : Given) (isPatch : Bool) : Showing :=
  let last := given.last? ["s", "p", "u", "U", "raw", "stat", "numstat", "shortstat", "summary",
    "names", "letters", "patched"]
  let roll? :=
    if given.has "letters" then some .letters
    else if given.has "names" then some .names
    else if given.has "raw" then some .raw
    else none
  let asksPatch := given.has "p" || given.has "u" || given.has "U" || given.has "patched"
  let isHidden := last = some "s"
  let context := (given.value? "U").bind Text.Ascii.decimal?
  let front (key : String) (letter : String) : Bytes :=
    if given.has "bare" then [] else (given.value? key).getD (Bytes.ofString letter)
  let fronts := (front "front" "a/", front "behind" "b/")
  let fronts := if given.has "R" then fronts.swap else fronts
  let look : Patch.Look :=
    ⟨context.getD 3, keyOf given, fronts.1, fronts.2, given.has "full" || given.has "binary",
      given.has "a"⟩
  let ending : Patch.Ending := if given.has "z" then ⟨0, false⟩ else ⟨0x0A, true⟩
  { roll? := if isHidden then none else roll?
    hasNumbers := given.has "numstat" && !isHidden
    hasBars := (given.has "stat" || given.has "patched") && !isHidden
    hasSum := given.has "shortstat" && !isHidden
    hasSummary := given.has "summary" && !isHidden
    hasPatch := !isHidden && (asksPatch || (last.isNone && isPatch))
    look, ending
    detectsRenames := !given.has "unnamed" || given.has "M"
    isReversed := given.has "R"
    filter := (given.value? "filter").getD [] }

/-- Something is shown. -/
def shows (showing : Showing) : Bool :=
  showing.roll?.isSome || showing.hasNumbers || showing.hasBars || showing.hasSum
    || showing.hasSummary || showing.hasPatch

/-- A change the other way round. -/
def reversed (delta : Delta) : Delta :=
  let change : Change :=
    match delta.change with
    | .added => .deleted
    | .deleted => .added
    | change => change
  ⟨change, delta.new?, delta.old?⟩

/-- The changes that are shown. -/
def chosen (showing : Showing) (deltas : List Delta) : List Delta :=
  let wanted := showing.filter.filter Text.Ascii.isUpper
  let unwanted := (showing.filter.filter Text.Ascii.isLower).map Text.Ascii.upper
  let deltas := deltas.filter fun delta =>
    (wanted = [] || wanted.contains delta.change.letter)
      && !unwanted.contains delta.change.letter
  if showing.isReversed then deltas.map reversed else deltas

/-- Changes in all forms that are asked for. What is loose is not kept under a name. -/
def bytes (showing : Showing) (isLoose : Bytes → Bool) (deltas : List Delta) : Bytes :=
  let look := showing.look
  let roll :=
    match showing.roll? with
    | some .names => Patch.names showing.ending deltas
    | some .letters => Patch.letters showing.ending deltas
    | some .raw => Patch.raw showing.ending look.isFull showing.isReversed isLoose deltas
    | none => []
  let front := roll
    ++ (if showing.hasNumbers then Patch.numbers look showing.ending deltas else [])
    ++ (if showing.hasBars then Patch.bars look deltas else [])
    ++ (if showing.hasSum then Patch.sum look deltas else [])
    ++ (if showing.hasSummary then Patch.summary deltas else [])
  if !showing.hasPatch then front
  else
    front ++ (if front = [] then [] else [showing.ending.byte]) ++ Patch.all look deltas

end Showing

/-- What is tracked within some scopes. -/
def limited (scopes : List Scope) (snapshot : Snapshot) : Snapshot :=
  snapshot.filter fun entry => Scope.admits scopes entry.1

namespace Work

/-- What a revision holds. -/
def snapshotNamed (text : Bytes) : Work Snapshot := do
  match ← treeOf? (← meant text) with
  | some tree => snapshotOf tree
  | none => unknownRevision text

/-- The commits that two commits both came from, and that no other such commit came from. -/
def mergeBases (first second : Named) : Work (List Named) := do
  let ofFirst ← history false [first] []
  let ofSecond := (← history false [second] []).map Prod.fst
  let common := ofFirst.filter fun named => ofSecond.contains named.1
  let rec go : List Named → List Id → Work (List Named)
    | [], _ => return []
    | named :: rest, covered => do
      if covered.contains named.1 then go rest covered
      else
        let below := (← history false [named] []).map Prod.fst
        let others ← go rest (below ++ covered)
        return named :: others
  go common []

/-- Two revisions as a text with points between them says; what is not said is the head. The third
part tells whether there are three points. -/
def rangeOf? (text : Bytes) : Option (Bytes × Bytes × Bool) :=
  let dots := Bytes.ofString ".."
  let places := (List.range text.length).filter fun place => dots.isPrefixOf (text.drop place)
  match places.head? with
  | none => none
  | some place =>
    let isWide := (text.drop (place + 2)).head? = some (ascii '.')
    let head := Bytes.ofString "HEAD"
    let named (part : Bytes) : Bytes := if part = [] then head else part
    let rest := text.drop (place + if isWide then 3 else 2)
    if text = dots then none else some (named (text.take place), named rest, isWide)

/-- What two revisions held, with the merge base in place of the first where that is asked for. -/
def sidesOf (first second : Bytes) (isWide : Bool) : Work (Snapshot × Snapshot) := do
  let new ← snapshotNamed second
  if isWide then
    let bases ← mergeBases (← commitNamed first) (← commitNamed second)
    match bases with
    | base :: _ => return (← snapshotOf base.2.tree, new)
    | [] =>
      die (first ++ Bytes.ofString "..." ++ second ++ Bytes.ofString ": no merge base")
  else return (← snapshotNamed first, new)

/-- What has changed between what revisions and options name, and which paths are not as they are
staged where the working tree is looked at. -/
def comparedDeltas (given : Given) (showing : Showing) (revisions : List Bytes)
    (scopes : List Scope) : Work (List Delta × (Bytes → Bool)) := do
  let session ← get
  let kept := keptContent session
  let outer := treeContent session
  let between (old new : Snapshot) : List Delta :=
    Delta.between kept kept showing.detectsRenames (limited scopes old) (limited scopes new)
  let index ← staged
  let isStaged := given.has "cached"
  let tree ← trackedNow index
  let besideTree (old : Snapshot) : List Delta :=
    Delta.between kept outer showing.detectsRenames (limited scopes old) (limited scopes tree)
  let isLoose (path : Bytes) : Bool := tree.find? path ≠ index.find? path
  match revisions with
  | [] =>
    if isStaged then return (between (← headSnapshot) index, fun _ => false)
    else return (besideTree index, isLoose)
  | [text] =>
    match rangeOf? text with
    | some (first, second, isWide) =>
      let (old, new) ← sidesOf first second isWide
      return (between old new, fun _ => false)
    | none =>
      let old ← snapshotNamed text
      if isStaged then return (between old index, fun _ => false) else return (besideTree old, isLoose)
  | [first, second] =>
    match Text.afterBlock? [ascii '^'] first, Text.afterBlock? [ascii '^'] second with
    | some first, none => return (between (← snapshotNamed first) (← snapshotNamed second), fun _ => false)
    | none, some second => return (between (← snapshotNamed second) (← snapshotNamed first), fun _ => false)
    | _, _ => return (between (← snapshotNamed first) (← snapshotNamed second), fun _ => false)
  | _ => die (Bytes.ofString "too many revisions")

def compareForms : List Form :=
  Showing.forms ++ [toggle "cached" ["cached", "staged"], toggle "outside" ["no-index"],
    toggle "base" ["merge-base"]]

/-- Ends a command with a code that tells whether something has changed, where that is asked for. -/
def endWithVerdict (given : Given) (deltas : List Delta) : Work Unit := do
  if (given.has "exit" || given.has "quiet") && !deltas.isEmpty then
    stop 1

/-- A file outside of any repository, as one side of a comparison. -/
def outsideSide (path : Bytes) : Work Side := do
  let session ← get
  let file := if path = [ascii '-'] then Path.ofString "/dev/stdin" else ⟨path⟩
  match session.view.stat file with
  | .ok (.file number) =>
    let bytes := (session.view.disk.contentOf number).toOption.getD []
    let found := Found.file number
    let shown := (Text.afterBlock? [separator] path).getD path
    return ⟨shown, ⟨found.kind session.view.disk, (Object.blob bytes).id⟩, bytes⟩
  | _ =>
    if path = Bytes.ofString "/dev/null" then return ⟨path, ⟨.file, noId⟩, []⟩
    else fail 1 (Bytes.ofString "Could not access '" ++ path ++ [ascii '\''])

/-- Compares two files outside of any repository. -/
def compareOutside (given : Given) (paths : List Bytes) : Work Unit := do
  match paths with
  | [first, second] =>
    let old ← outsideSide first
    let new ← outsideSide second
    let isNothing (side : Side) : Bool := side.path = Bytes.ofString "/dev/null"
    let delta : Delta :=
      if isNothing old then ⟨.added, none, some new⟩
      else if isNothing new then ⟨.deleted, some old, none⟩
      else ⟨.modified, some old, some new⟩
    let isSame := old.bytes = new.bytes && old.leaf.kind = new.leaf.kind
    let showing := Showing.ofGiven given true
    let deltas := if isSame then [] else showing.chosen [delta]
    if !given.has "quiet" then
      put (showing.bytes (fun _ => false) deltas)
    if !isSame then stop 1
  | _ => misused (Bytes.ofString "usage: git diff --no-index [<options>] <path> <path>")

/-- Shows what has changed. -/
def compare (arguments : List Bytes) : Work Unit := do
  let (front, behind?) := divided arguments
  let given ← options compareForms front
  if given.has "outside" then
    compareOutside given (given.operands ++ behind?.getD [])
  else
    let (revisions, scopes) ← partsOf given.operands behind?
    let showing := Showing.ofGiven given true
    let (deltas, isLoose) ← comparedDeltas given showing revisions scopes
    let deltas := showing.chosen deltas
    if !given.has "quiet" then
      put (showing.bytes isLoose deltas)
    endWithVerdict given deltas

end Work

end ChangelogSql.Repository
