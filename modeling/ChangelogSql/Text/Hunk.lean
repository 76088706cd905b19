import ChangelogSql.Text.Difference

/-!
Changes with some lines around them. Changes that are near to each other are
shown together, so that no line is shown twice.
-/

namespace ChangelogSql.Text.Difference

/-- Changes that are shown together, with the lines around them: where they begin, and how many lines
there are, on both sides. -/
structure Hunk where
  oldStart : Nat
  oldCount : Nat
  newStart : Nat
  newCount : Nat
  changes : List Change

/-- Changes in groups; a change is in the group of the one in front of it where fewer lines lie between
them than `reach` says. -/
def grouped (reach : Change → Nat) : List Change → List (List Change)
  | [] => []
  | change :: rest =>
    match grouped reach rest with
    | (next :: group) :: groups =>
      if next.oldStart - (change.oldStart + change.oldCount) < reach next then
        (change :: next :: group) :: groups
      else [change] :: (next :: group) :: groups
    | groups => [change] :: groups

/-- The hunks of some changes, with so many lines around them. Minor changes are in the same hunk as
those in front of them only where the lines around these reach them. -/
def hunks (context : Nat) (isMinor : Change → Bool) (oldSize newSize : Nat)
    (changes : List Change) : List Hunk :=
  let reach (change : Change) : Nat := if isMinor change then context else 2 * context + 1
  (grouped reach changes).filterMap fun group =>
    match group.head?, group.getLast? with
    | some first, some last =>
      let oldStart := first.oldStart - context
      let newStart := first.newStart - context
      let oldStop := min (last.oldStart + last.oldCount + context) oldSize
      let newStop := min (last.newStart + last.newCount + context) newSize
      some ⟨oldStart, oldStop - oldStart, newStart, newStop - newStart, group⟩
    | _, _ => none

/-- A range of lines as it is written; nothing is where the line in front of it ends. -/
def range (start count : Nat) : Bytes :=
  let first := if count = 0 then start else start + 1
  Ascii.ofNat first
    ++ if count = 1 then [] else ascii ',' :: Ascii.ofNat count

/-- A line behind its sign. One that is not ended is ended here, with a remark. -/
def signed (sign : Char) (line : Bytes) : Bytes :=
  ascii sign :: line
    ++ if line.getLast? = some 0x0A then []
      else Bytes.ofString "\n\\ No newline at end of file\n"

/-- The lines of a hunk from two places on. -/
def hunkLines (old new : Array Bytes) (hunk : Hunk) :
    Nat → List Change → List Bytes
  | i, [] =>
    ((old.extract i (hunk.oldStart + hunk.oldCount)).toList).map (signed ' ')
  | i, change :: rest =>
    ((old.extract i change.oldStart).toList).map (signed ' ')
      ++ ((old.extract change.oldStart (change.oldStart + change.oldCount)).toList).map (signed '-')
      ++ ((new.extract change.newStart (change.newStart + change.newCount)).toList).map (signed '+')
      ++ hunkLines old new hunk (change.oldStart + change.oldCount) rest

/-- A hunk as it is shown: its place on both sides, and its lines behind their signs. -/
def Hunk.shown (heading : Bytes) (old new : Array Bytes) (hunk : Hunk) : Bytes :=
  Bytes.ofString "@@ -" ++ range hunk.oldStart hunk.oldCount ++ Bytes.ofString " +"
    ++ range hunk.newStart hunk.newCount ++ Bytes.ofString " @@" ++ heading ++ 0x0A
    :: (hunkLines old new hunk hunk.oldStart hunk.changes).flatten

end ChangelogSql.Text.Difference
