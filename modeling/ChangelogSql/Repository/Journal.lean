import ChangelogSql.Repository.Identity
import ChangelogSql.Repository.Session

/-!
What has become of references: where they led before, who changed that, and why.
Every time one is let lead elsewhere, a line about it is put behind the others.
-/

namespace ChangelogSql.Repository

open Text (ascii)

/-- A change of a reference. -/
structure Move where
  old : Id
  new : Id
  /-- Who did it, and when. -/
  signature : Signature
  reason : Bytes

namespace Move

/-- A reason as it is kept: on one line, with one blank between its words. -/
def plain (reason : Bytes) : Bytes :=
  let isBlank (b : UInt8) : Bool := [0x09, 0x0A, 0x0D, 0x20].contains b
  let blanks := reason.map fun b => if isBlank b then 0x20 else b
  Text.joinWith 0x20 ((Text.splitAt 0x20 blanks).filter (· ≠ []))

/-- A change as a line. -/
def line (move : Move) : Bytes :=
  let reason := plain move.reason
  move.old ++ ascii ' ' :: move.new ++ ascii ' ' :: move.signature.bytes
    ++ (if reason = [] then [] else 0x09 :: reason) ++ [0x0A]

/-- The change that a line tells. -/
def ofLine? (line : Bytes) : Option Move :=
  let front := line.takeWhile (· ≠ 0x09)
  if front.length < 82 then none
  else
    some ⟨front.take 40, (front.drop 41).take 40, Signature.ofBytes (front.drop 82),
      line.drop (front.length + 1)⟩

end Move

namespace Work

/-- The file with the changes of a reference. -/
def journalName (reference : Bytes) : Bytes :=
  Bytes.ofString "logs/" ++ reference

/-- The changes of a reference, the last first. -/
def journal (reference : Bytes) : Work (List Move) := do
  let content := (← own? (journalName reference)).getD []
  return ((Text.splitAt 0x0A content).filterMap Move.ofLine?).reverse

/-- Who does something to a reference, if that is known. -/
def mover : Work Signature := do
  let session ← get
  let (result, _) := ((signature "COMMITTER").run).run session
  match result with
  | .ok signature => return signature
  | .error _ =>
    return ⟨Bytes.ofString "root", Bytes.ofString "root@localhost", ← now, Bytes.ofString "+0000"⟩

/-- Notes a change of a reference. -/
def record (reference : Bytes) (old new : Id) (reason : Bytes) : Work Unit := do
  let name := journalName reference
  let line := (Move.mk old new (← mover) reason).line
  setOwn name (((← own? name).getD []) ++ line)

/-- Lets a reference lead to a commit. -/
def setReference (reference : Bytes) (id : Id) (reason : Bytes) : Work Unit := do
  let old := (← reference? reference).getD noId
  let clash := (← references "refs/").find? fun (other, _) =>
    (other ++ [separator]).isPrefixOf reference || (reference ++ [separator]).isPrefixOf other
  match clash with
  | some (other, _) =>
    die (Bytes.ofString "cannot lock ref '" ++ reference ++ Bytes.ofString "': '" ++ other
      ++ Bytes.ofString "' exists; cannot create '" ++ reference ++ [ascii '\''])
  | none =>
    setOwn reference (id ++ [0x0A])
    if (Bytes.ofString "refs/heads/").isPrefixOf reference then
      record reference old id reason
    if (← head) = .reference reference then
      record (Bytes.ofString "HEAD") old id reason

/-- Lets the head's reference, or the head itself, lead to a commit. -/
def advance (id : Id) (reason : Bytes) : Work Unit := do
  match ← head with
  | .reference name => setReference name id reason
  | .detached old =>
    setOwn (Bytes.ofString "HEAD") (id ++ [0x0A])
    record (Bytes.ofString "HEAD") old id reason

/-- Lets the head be something else. -/
def turnHead (target : Head) (id? : Option Id) (reason : Bytes) : Work Unit := do
  let old := (← headId?).getD noId
  let isSame := (← head) = target && target = .detached old
  let text :=
    match target with
    | .reference name => Bytes.ofString "ref: " ++ name
    | .detached id => id
  setOwn (Bytes.ofString "HEAD") (text ++ [0x0A])
  match id? with
  | some id => if !isSame then record (Bytes.ofString "HEAD") old id reason
  | none => pure ()

/-- Forgets what has been begun and not been recorded. -/
def forgetPending : Work Unit := do
  for name in ["MERGE_HEAD", "MERGE_MSG", "CHERRY_PICK_HEAD", "REVERT_HEAD"] do
    if (← own? (Bytes.ofString name)).isSome then eraseOwn (Bytes.ofString name)

/-- A name that a branch or a mark can have. -/
def isReferenceName (name : Bytes) : Bool :=
  let segments := Text.splitAt separator name
  let isBad (b : UInt8) : Bool :=
    b ≤ 0x20 || b = 0x7F || (Bytes.ofString "~^:?*[\\").contains b
  name ≠ [] && !name.any isBad && name.head? ≠ some (ascii '-') && name.getLast? ≠ some (ascii '.')
    && !Text.occursIn (Bytes.ofString "..") name && !Text.occursIn (Bytes.ofString "@\x7b") name
    && name ≠ [ascii '@']
    && segments.all fun segment =>
      segment ≠ [] && segment.head? ≠ some (ascii '.')
        && !(Bytes.ofString ".lock").isSuffixOf segment

end Work

end ChangelogSql.Repository
