import ChangelogSql.Repository.Session
import Std.Data.HashMap

/-!
What has become of paths between two snapshots. A path that is gone and a new one
with much the same content are one path that has been given another name.
-/

namespace ChangelogSql.Repository

open Text (ascii)

/-- What is known of a path on one side. -/
structure Side where
  path : Bytes
  leaf : Leaf
  bytes : Bytes

/-- How a path has changed. -/
inductive Change where
  | added
  | modified
  | deleted
  /-- Something of another kind stands there. -/
  | retyped
  /-- It had another name; how much is the same, in hundredths. -/
  | renamed (score : Nat)
  deriving DecidableEq

/-- The letter of a change. -/
def Change.letter : Change → UInt8
  | .added => ascii 'A'
  | .modified => ascii 'M'
  | .deleted => ascii 'D'
  | .retyped => ascii 'T'
  | .renamed _ => ascii 'R'

/-- A path that has changed. -/
structure Delta where
  change : Change
  old? : Option Side
  new? : Option Side

namespace Delta

/-- The path that a change is listed under. -/
def path (delta : Delta) : Bytes :=
  ((delta.new?.or delta.old?).map Side.path).getD []

/-- The path before the change. -/
def oldPath (delta : Delta) : Bytes :=
  ((delta.old?.or delta.new?).map Side.path).getD []

/-- Two kinds are so different that a change from one to the other is no modification. -/
def isRetyped (kind other : Kind) : Bool :=
  let isPlain (kind : Kind) : Bool := kind = .file || kind = .program
  !(isPlain kind && isPlain other) && kind ≠ other

/-- The pieces of a content: lines, or sixty-four bytes where a line is longer. What is at the end
without a line end does not count. `size` bytes of a piece have been read. -/
def pieces : Bytes → Nat → Bytes → List Bytes
  | _, _, [] => []
  | piece, size, b :: rest =>
    if b = 0x0D && rest.head? = some 0x0A then pieces piece size rest
    else if size + 1 < 64 && b ≠ 0x0A then pieces (b :: piece) (size + 1) rest
    else (b :: piece) :: pieces [] 0 rest

/-- How many bytes each piece of a content takes in all. -/
def tallies (bytes : Bytes) : Std.HashMap Bytes Nat :=
  (pieces [] 0 bytes).foldl
    (fun tallies piece => tallies.insert piece ((tallies[piece]?).getD 0 + piece.length)) {}

/-- All that can be the same. -/
def fullScore : Nat := 60000

/-- How much of two contents is the same, if it is as much as `least`. -/
def similarity (least : Nat) (old new : Side) : Nat :=
  let isPlain (kind : Kind) : Bool := kind = .file || kind = .program
  let size := old.bytes.length
  let size' := new.bytes.length
  let most := max size size'
  let gap := most - min size size'
  if !isPlain old.leaf.kind || !isPlain new.leaf.kind then 0
  else if most * (fullScore - least) < gap * fullScore then 0
  else if size' = 0 then 0
  else
    let tallies' := tallies new.bytes
    let common := (tallies old.bytes).fold
      (fun common piece count => common + min count ((tallies'[piece]?).getD 0)) 0
    common * fullScore / most

/-- The last segment of a path. -/
def lastName (path : Bytes) : Bytes :=
  (path.reverse.takeWhile (· ≠ separator)).reverse

/-- The least score at which a path counts as given another name. -/
def renameScore : Nat := 30000

/-- The least score at which that is so for the only paths with the same last segment. -/
def sameNameScore : Nat := 45000

/-- Sides that belong together, and how much of them is the same. -/
structure Pairing where
  old : Side
  new : Side
  score : Nat

/-- Paths with the same content. -/
def exactPairings (gone : List Side) : List Side → List Pairing → List Pairing
  | [], found => found
  | new :: rest, found =>
    let free := gone.filter fun old =>
      old.leaf.id = new.leaf.id && !Delta.isRetyped old.leaf.kind new.leaf.kind
        && !found.any (·.old.path = old.path)
    let best := (free.find? fun old => lastName old.path = lastName new.path).or free.head?
    match best with
    | some old => exactPairings gone rest (⟨old, new, fullScore⟩ :: found)
    | none => exactPairings gone rest found

/-- The only one of some sides with a last segment. -/
def onlyNamed? (sides : List Side) (name : Bytes) : Option Side :=
  match sides.filter fun side => lastName side.path = name with
  | [side] => some side
  | _ => none

/-- Paths with the same last segment and much the same content. -/
def namedPairings (gone came : List Side) : List Pairing :=
  gone.filterMap fun old => do
    let name := lastName old.path
    let _ ← onlyNamed? gone name
    let new ← onlyNamed? came name
    let score := similarity renameScore old new
    if sameNameScore ≤ score then some ⟨old, new, score⟩ else none

/-- Paths with much the same content, the likeliest first. -/
def likelyPairings (gone came : List Side) : List Pairing :=
  let all := came.flatMap fun new => gone.filterMap fun old =>
    let score := similarity renameScore old new
    if renameScore ≤ score then some (Pairing.mk old new score) else none
  let rank (pairing : Pairing) : Nat :=
    2 * pairing.score + if lastName pairing.old.path = lastName pairing.new.path then 1 else 0
  let ranked := all.mergeSort fun pairing other => rank other ≤ rank pairing
  ranked.foldl
    (fun taken pairing =>
      let isTaken := taken.any fun other =>
        other.old.path = pairing.old.path || other.new.path = pairing.new.path
      if isTaken then taken else taken ++ [pairing])
    []

/-- The paths that were given other names. -/
def pairings (gone came : List Side) : List Pairing :=
  let without (sides : List Side) (side : Pairing → Side) (found : List Pairing) : List Side :=
    sides.filter fun other => !found.any fun pairing => (side pairing).path = other.path
  let exact := exactPairings gone came []
  let gone := without gone Pairing.old exact
  let came := without came Pairing.new exact
  let named := namedPairings gone came
  exact ++ named
    ++ likelyPairings (without gone Pairing.old named) (without came Pairing.new named)

/-- What has changed between two snapshots, each with a function that gives contents. -/
def between (content content' : Bytes → Leaf → Bytes) (detectsRenames : Bool)
    (old new : Snapshot) : List Delta :=
  let known : Std.HashMap Bytes Leaf := Std.HashMap.ofList old
  let known' : Std.HashMap Bytes Leaf := Std.HashMap.ofList new
  let side (path : Bytes) (leaf : Leaf) : Side := ⟨path, leaf, content path leaf⟩
  let side' (path : Bytes) (leaf : Leaf) : Side := ⟨path, leaf, content' path leaf⟩
  let gone := (old.filter fun entry => !known'.contains entry.1).map fun entry =>
    side entry.1 entry.2
  let came := (new.filter fun entry => !known.contains entry.1).map fun entry =>
    side' entry.1 entry.2
  let changed := new.filterMap fun (path, leaf) => do
    let before ← known[path]?
    if before = leaf then none
    else
      let change : Change :=
        if isRetyped before.kind leaf.kind then .retyped else .modified
      some (Delta.mk change (some (side path before)) (some (side' path leaf)))
  let found := if detectsRenames then pairings gone came else []
  let gone := gone.filter fun side => !found.any (·.old.path = side.path)
  let came := came.filter fun side => !found.any (·.new.path = side.path)
  let all := changed
    ++ found.map (fun pairing =>
      ⟨.renamed (pairing.score * 100 / fullScore), some pairing.old, some pairing.new⟩)
    ++ gone.map (fun side => ⟨.deleted, some side, none⟩)
    ++ came.map (fun side => ⟨.added, none, some side⟩)
  all.mergeSort fun delta other => delta.path ≤ other.path

end Delta

/-- The content of what is kept. -/
def keptContent (session : Session) (_ : Bytes) (leaf : Leaf) : Bytes :=
  match Work.object? session leaf.id with
  | some (.blob bytes) => bytes
  | _ =>
    if leaf.kind = .module then Bytes.ofString "Subproject commit " ++ leaf.id ++ [0x0A] else []

end ChangelogSql.Repository
