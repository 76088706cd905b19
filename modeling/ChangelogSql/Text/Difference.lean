import ChangelogSql.Text.Ascii
import ChangelogSql.Text.Search
import Std.Data.HashMap

/-!
What has to be taken out of one row of lines and put into it to get another. A
shortest way is sought from both ends at once; then every group of changed lines
is moved to where it reads best, without a change of what it means.
-/

namespace ChangelogSql.Text.Difference

/-- Two rows of lines. Lines that are the same have the same number. -/
structure Rows where
  old : Array Nat
  new : Array Nat

/-- The numbers of lines; the same number stands for the same line. -/
def numbered (lines : Array Bytes) (known : Std.HashMap Bytes Nat) :
    Array Nat × Std.HashMap Bytes Nat :=
  lines.foldl
    (fun (numbers, known) line =>
      match known[line]? with
      | some number => (numbers.push number, known)
      | none => (numbers.push known.size, known.insert line known.size))
    (#[], known)

def Rows.ofLines (old new : Array Bytes) : Rows :=
  let (old, known) := numbered old {}
  let (new, _) := numbered new known
  ⟨old, new⟩

/-- The marks of changed lines. -/
structure Marks where
  old : Array Bool
  new : Array Bool

/-- A part of both rows, from a line up to another. -/
structure Box where
  oldStart : Nat
  oldStop : Nat
  newStart : Nat
  newStop : Nat

/-- How many lines are the same from two places on, up to two others. -/
def sameAfter (old new : Array Nat) : Nat → Nat → Nat → Nat → Nat → Nat
  | 0, _, _, _, _ => 0
  | fuel + 1, i, oldStop, j, newStop =>
    if i < oldStop && j < newStop && old[i]? = new[j]? then
      sameAfter old new fuel (i + 1) oldStop (j + 1) newStop + 1
    else 0

/-- How many lines are the same in front of two places, down to two others. -/
def sameBefore (old new : Array Nat) : Nat → Nat → Nat → Nat → Nat → Nat
  | 0, _, _, _, _ => 0
  | fuel + 1, i, oldStart, j, newStart =>
    if oldStart < i && newStart < j && old[i - 1]? = new[j - 1]? then
      sameBefore old new fuel (i - 1) oldStart (j - 1) newStart + 1
    else 0

/-- A part of both rows without the lines that are the same at its beginning and its end. -/
def Box.trimmed (old new : Array Nat) (box : Box) : Box :=
  let front := sameAfter old new (old.size + 1) box.oldStart box.oldStop box.newStart box.newStop
  let box := { box with oldStart := box.oldStart + front, newStart := box.newStart + front }
  let back := sameBefore old new (old.size + 1) box.oldStop box.oldStart box.newStop box.newStart
  { box with oldStop := box.oldStop - back, newStop := box.newStop - back }

/-- How far the ways have come on the diagonals, each kept at a place that is shifted so that none is
negative. -/
structure Fronts where
  forward : Array Int
  backward : Array Int
  forwardLow : Int
  forwardHigh : Int
  backwardLow : Int
  backwardHigh : Int

/-- How far a way has come on a diagonal. -/
def reached (front : Array Int) (shift diagonal : Int) : Int :=
  (front[(diagonal + shift).toNat]?).getD 0

def setReached (front : Array Int) (shift diagonal value : Int) : Array Int :=
  front.setIfInBounds (diagonal + shift).toNat value

/-- A place that is never reached. -/
def beyond : Int := 1000000000

/-- Takes the ways forward one step on from a diagonal and every second one below it; where they meet
those that come back, if they do. -/
def stepForward (old new : Array Nat) (box : Box) (shift : Int) (isOdd : Bool) :
    Nat → Int → Fronts → Fronts × Option (Nat × Nat)
  | 0, _, fronts => (fronts, none)
  | fuel + 1, diagonal, fronts =>
    if diagonal < fronts.forwardLow then (fronts, none)
    else
      let below := reached fronts.forward shift (diagonal - 1)
      let above := reached fronts.forward shift (diagonal + 1)
      let i := if below ≥ above then below + 1 else above
      let j := i - diagonal
      let run :=
        if i < 0 || j < 0 then 0
        else sameAfter old new (old.size + 1) i.toNat box.oldStop j.toNat box.newStop
      let i := i + run
      let fronts := { fronts with forward := setReached fronts.forward shift diagonal i }
      if isOdd && fronts.backwardLow ≤ diagonal && diagonal ≤ fronts.backwardHigh
          && reached fronts.backward shift diagonal ≤ i then
        (fronts, some (i.toNat, (i - diagonal).toNat))
      else stepForward old new box shift isOdd fuel (diagonal - 2) fronts

/-- Takes the ways back one step on, like those forward. -/
def stepBackward (old new : Array Nat) (box : Box) (shift : Int) (isOdd : Bool) :
    Nat → Int → Fronts → Fronts × Option (Nat × Nat)
  | 0, _, fronts => (fronts, none)
  | fuel + 1, diagonal, fronts =>
    if diagonal < fronts.backwardLow then (fronts, none)
    else
      let below := reached fronts.backward shift (diagonal - 1)
      let above := reached fronts.backward shift (diagonal + 1)
      let i := if below < above then below else above - 1
      let j := i - diagonal
      let run :=
        if i < 0 || j < 0 then 0
        else sameBefore old new (old.size + 1) i.toNat box.oldStart j.toNat box.newStart
      let i := i - run
      let fronts := { fronts with backward := setReached fronts.backward shift diagonal i }
      if !isOdd && fronts.forwardLow ≤ diagonal && diagonal ≤ fronts.forwardHigh
          && i ≤ reached fronts.forward shift diagonal then
        (fronts, some (i.toNat, (i - diagonal).toNat))
      else stepBackward old new box shift isOdd fuel (diagonal - 2) fronts

/-- Goes on from both ends until the ways meet. -/
def meet (old new : Array Nat) (box : Box) (shift low high : Int) (isOdd : Bool) :
    Nat → Fronts → Nat × Nat
  | 0, _ => (box.oldStart, box.newStart)
  | fuel + 1, fronts =>
    let fronts :=
      if low < fronts.forwardLow then
        { fronts with
          forwardLow := fronts.forwardLow - 1
          forward := setReached fronts.forward shift (fronts.forwardLow - 2) (-1) }
      else { fronts with forwardLow := fronts.forwardLow + 1 }
    let fronts :=
      if fronts.forwardHigh < high then
        { fronts with
          forwardHigh := fronts.forwardHigh + 1
          forward := setReached fronts.forward shift (fronts.forwardHigh + 2) (-1) }
      else { fronts with forwardHigh := fronts.forwardHigh - 1 }
    let width := (fronts.forwardHigh - fronts.forwardLow).toNat + 1
    match stepForward old new box shift isOdd width fronts.forwardHigh fronts with
    | (_, some place) => place
    | (fronts, none) =>
      let fronts :=
        if low < fronts.backwardLow then
          { fronts with
            backwardLow := fronts.backwardLow - 1
            backward := setReached fronts.backward shift (fronts.backwardLow - 2) beyond }
        else { fronts with backwardLow := fronts.backwardLow + 1 }
      let fronts :=
        if fronts.backwardHigh < high then
          { fronts with
            backwardHigh := fronts.backwardHigh + 1
            backward := setReached fronts.backward shift (fronts.backwardHigh + 2) beyond }
        else { fronts with backwardHigh := fronts.backwardHigh - 1 }
      let width := (fronts.backwardHigh - fronts.backwardLow).toNat + 1
      match stepBackward old new box shift isOdd width fronts.backwardHigh fronts with
      | (_, some place) => place
      | (fronts, none) => meet old new box shift low high isOdd fuel fronts

/-- Where a shortest way through a part of both rows passes its middle. -/
def middle (old new : Array Nat) (box : Box) : Nat × Nat :=
  let low : Int := (box.oldStart : Int) - box.newStop
  let high : Int := (box.oldStop : Int) - box.newStart
  let shift : Int := 2 - low
  let size := (high - low).toNat + 5
  let first : Int := (box.oldStart : Int) - box.newStart
  let last : Int := (box.oldStop : Int) - box.newStop
  let forward := setReached (Array.replicate size 0) shift first box.oldStart
  let backward := setReached (Array.replicate size 0) shift last box.oldStop
  meet old new box shift low high ((first - last) % 2 ≠ 0) (size + 1)
    ⟨forward, backward, first, first, last, last⟩

/-- Marks the lines from one place up to another. -/
def marked (marks : Array Bool) (start stop : Nat) : Array Bool :=
  (List.range (stop - start)).foldl (fun marks offset => marks.setIfInBounds (start + offset) true)
    marks

/-- Marks what changes in a part of both rows. `fuel` bounds how often it is divided. -/
def divide (old new : Array Nat) : Nat → Box → Marks → Marks
  | 0, box, marks =>
    ⟨marked marks.old box.oldStart box.oldStop, marked marks.new box.newStart box.newStop⟩
  | fuel + 1, box, marks =>
    let box := box.trimmed old new
    if box.oldStart = box.oldStop then
      { marks with new := marked marks.new box.newStart box.newStop }
    else if box.newStart = box.newStop then
      { marks with old := marked marks.old box.oldStart box.oldStop }
    else
      let (i, j) := middle old new box
      let marks := divide old new fuel { box with oldStop := i, newStop := j } marks
      divide old new fuel { box with oldStart := i, newStart := j } marks

/-- How many times a line of one row stands in the other. -/
inductive Frequency where
  | never
  | sometimes
  | often
  deriving DecidableEq, Inhabited

/-- A power of two that is about the square root of a number. -/
def roughRoot : Nat → Nat → Nat
  | 0, _ => 1
  | _, 0 => 1
  | fuel + 1, number => 2 * roughRoot fuel (number / 4)

/-- How often the lines of a row stand in another row. -/
def frequencies (row other : Array Nat) : Array Frequency :=
  let counts : Std.HashMap Nat Nat := other.foldl
    (fun counts number => counts.insert number ((counts[number]?).getD 0 + 1)) {}
  let limit := min (roughRoot 64 row.size) 1024
  row.map fun number =>
    match (counts[number]?).getD 0 with
    | 0 => .never
    | count => if limit ≤ count then .often else .sometimes

/-- How many lines in a run stand never and often in the other row, until one stands sometimes. -/
def runLengths (run : List Frequency) : Nat × Nat :=
  let run := (run.take 100).takeWhile (· ≠ .sometimes)
  (run.count .never, run.count .often)

/-- A line that stands often in the other row is left out where it is among many that never do. -/
def isDrowned (frequencies : Array Frequency) (start stop place : Nat) : Bool :=
  let (neverBefore, oftenBefore) :=
    runLengths ((frequencies.extract start place).toList.reverse)
  let (neverAfter, oftenAfter) := runLengths (frequencies.extract (place + 1) stop).toList
  neverBefore ≠ 0 && neverAfter ≠ 0
    && (oftenBefore + oftenAfter + 2) * 4
      < oftenBefore + oftenAfter + 2 + neverBefore + neverAfter

/-- The places between two others whose lines take part in the search for a shortest way. -/
def relevant (frequencies : Array Frequency) (start stop : Nat) : List Nat :=
  ((List.range (stop - start)).map (start + ·)).filter fun place =>
    match (frequencies[place]?).getD .never with
    | .never => false
    | .sometimes => true
    | .often => !isDrowned frequencies start stop place

/-- The marks of a shortest way. -/
def shortest (rows : Rows) : Marks :=
  let whole : Box := ⟨0, rows.old.size, 0, rows.new.size⟩
  let box := whole.trimmed rows.old rows.new
  let oldPlaces := (relevant (frequencies rows.old rows.new) box.oldStart box.oldStop).toArray
  let newPlaces := (relevant (frequencies rows.new rows.old) box.newStart box.newStop).toArray
  let old := oldPlaces.map fun place => (rows.old[place]?).getD 0
  let new := newPlaces.map fun place => (rows.new[place]?).getD 0
  let inner := divide old new (old.size + new.size + 2) ⟨0, old.size, 0, new.size⟩
    ⟨Array.replicate old.size false, Array.replicate new.size false⟩
  let spread (size start stop : Nat) (places : Array Nat) (inner : Array Bool) : Array Bool :=
    let all := marked (Array.replicate size false) start stop
    (places.toList.zip inner.toList).foldl
      (fun marks (place, isChanged) => marks.setIfInBounds place isChanged) all
  ⟨spread rows.old.size box.oldStart box.oldStop oldPlaces inner.old,
    spread rows.new.size box.newStart box.newStop newPlaces inner.new⟩

/-- A group of changed lines that stand together; an empty one stands between two lines that are
not changed. -/
structure Group where
  start : Nat
  stop : Nat
  deriving DecidableEq

def isMarked (marks : Array Bool) (place : Nat) : Bool :=
  (marks[place]?).getD false

/-- The end of the group that goes on at a place. -/
def endFrom (marks : Array Bool) : Nat → Nat → Nat
  | 0, place => place
  | fuel + 1, place => if isMarked marks place then endFrom marks fuel (place + 1) else place

/-- The beginning of the group that stands in front of a place. -/
def startFrom (marks : Array Bool) : Nat → Nat → Nat
  | 0, place => place
  | fuel + 1, place =>
    if 0 < place && isMarked marks (place - 1) then startFrom marks fuel (place - 1) else place

/-- The first group. -/
def firstGroup (marks : Array Bool) : Group :=
  ⟨0, endFrom marks marks.size 0⟩

/-- The group behind another. -/
def Group.next? (marks : Array Bool) (group : Group) : Option Group :=
  if group.stop = marks.size then none
  else some ⟨group.stop + 1, endFrom marks marks.size (group.stop + 1)⟩

/-- The group in front of another. -/
def Group.previous? (marks : Array Bool) (group : Group) : Option Group :=
  if group.start = 0 then none
  else some ⟨startFrom marks marks.size (group.start - 1), group.start - 1⟩

/-- A group moved down by one line, if it means the same then; it can come upon the next group. -/
def Group.down? (row : Array Nat) (marks : Array Bool) (group : Group) :
    Option (Group × Array Bool) :=
  if group.stop < marks.size && row[group.start]? = row[group.stop]? then
    let marks := (marks.setIfInBounds group.start false).setIfInBounds group.stop true
    some (⟨group.start + 1, endFrom marks marks.size (group.stop + 1)⟩, marks)
  else none

/-- A group moved up by one line, if it means the same then. -/
def Group.up? (row : Array Nat) (marks : Array Bool) (group : Group) :
    Option (Group × Array Bool) :=
  if 0 < group.start && row[group.start - 1]? = row[group.stop - 1]? then
    let marks := (marks.setIfInBounds (group.start - 1) true).setIfInBounds (group.stop - 1) false
    some (⟨startFrom marks marks.size (group.start - 1), group.stop - 1⟩, marks)
  else none

/-- A group that is moved, the marks of its row, and the group of the other row beside it. -/
structure Slide where
  group : Group
  marks : Array Bool
  beside : Group

/-- Moves a group up as far as possible. -/
def slideUp (row : Array Nat) (other : Array Bool) : Nat → Slide → Slide
  | 0, slide => slide
  | fuel + 1, slide =>
    match slide.group.up? row slide.marks with
    | none => slide
    | some (group, marks) =>
      slideUp row other fuel ⟨group, marks, (slide.beside.previous? other).getD slide.beside⟩

/-- Moves a group down as far as possible; the last of its ends beside a group of the other row that
is not empty. -/
def slideDown (row : Array Nat) (other : Array Bool) :
    Nat → Slide → Option Nat → Slide × Option Nat
  | 0, slide, fitting? => (slide, fitting?)
  | fuel + 1, slide, fitting? =>
    match slide.group.down? row slide.marks with
    | none => (slide, fitting?)
    | some (group, marks) =>
      let beside := (slide.beside.next? other).getD slide.beside
      slideDown row other fuel ⟨group, marks, beside⟩
        (if beside.start < beside.stop then some group.stop else fitting?)

/-- Moves a group up and down until it does not come upon other groups any more. The last answers
are the highest of its ends, and the last of them that fits a group of the other row. -/
def settle (row : Array Nat) (other : Array Bool) : Nat → Slide → Slide × Nat × Option Nat
  | 0, slide => (slide, slide.group.stop, none)
  | fuel + 1, slide =>
    let size := slide.group.stop - slide.group.start
    let top := slideUp row other row.size slide
    let earliest := top.group.stop
    let fitting? := if top.beside.start < top.beside.stop then some earliest else none
    let (bottom, fitting?) := slideDown row other row.size top fitting?
    if bottom.group.stop - bottom.group.start = size then (bottom, earliest, fitting?)
    else settle row other fuel bottom

/-- How far a line is set in; nothing for a blank one. -/
def indent? (line : Bytes) : Option Nat :=
  let blanks := line.takeWhile Ascii.isSpace
  if blanks.length = line.length then none
  else
    some (min 200 (blanks.foldl
      (fun column b =>
        if b = ascii ' ' then column + 1
        else if b = ascii '\t' then column + 8 - column % 8
        else column)
      0))

/-- How many blank lines come first, and how far the line behind them is set in. -/
def surroundings (lines : List Bytes) : Nat × Option Nat :=
  let blanks := (lines.takeWhile fun line => (indent? line).isNone).length
  if 20 ≤ blanks then (20, some 0) else (blanks, (lines[blanks]?).bind indent?)

/-- How badly a place is suited for a cut: how far what follows is set in, and a penalty. -/
def cutScore (lines : Array Bytes) (place : Nat) : Int × Int :=
  let isAtEnd := lines.size ≤ place
  let here := (lines[place]?).bind indent?
  let (blanksBefore, before) := surroundings (lines.extract 0 place).toList.reverse
  let (blanksBehind, behind) := surroundings (lines.extract (place + 1) lines.size).toList
  let blanksAfter := if here.isNone then 1 + blanksBehind else 0
  let blanks := blanksBefore + blanksAfter
  let indent := here.or behind
  let edge : Int :=
    (if before.isNone && blanksBefore = 0 then 1 else 0) + (if isAtEnd then 21 else 0)
  let turn : Int :=
    match indent, before with
    | some indent, some before =>
      if before < indent then if blanks ≠ 0 then 10 else -4
      else if indent = before then 0
      else if behind.any (indent < ·) then if blanks ≠ 0 then 17 else 24
      else if blanks ≠ 0 then 17 else 23
    | _, _ => 0
  ((indent.map Int.ofNat).getD (-1), edge - 30 * blanks + 6 * blanksAfter + turn)

/-- How badly a group is placed that ends at a place. -/
def placeScore (lines : Array Bytes) (size stop : Nat) : Int × Int :=
  let (indent, penalty) := cutScore lines stop
  let (indent', penalty') := cutScore lines (stop - size)
  (indent + indent', penalty + penalty')

/-- The first score is not worse than the second one. -/
def isNoWorse (score other : Int × Int) : Bool :=
  let order : Int := if other.1 < score.1 then 1 else if score.1 < other.1 then -1 else 0
  60 * order + (score.2 - other.2) ≤ 0

/-- The best of the ends that a group can have. -/
def bestEnd (lines : Array Bytes) (size : Nat) (stops : List Nat) (last : Nat) : Nat :=
  let best? := stops.foldl
    (fun (best? : Option (Nat × (Int × Int))) stop =>
      let score := placeScore lines size stop
      match best? with
      | none => some (stop, score)
      | some (_, best) => if isNoWorse score best then some (stop, score) else best?)
    none
  (best?.map Prod.fst).getD last

/-- Moves a group up as long as a condition holds. -/
def slideUpWhile (row : Array Nat) (other : Array Bool) (wanted : Slide → Bool) :
    Nat → Slide → Slide
  | 0, slide => slide
  | fuel + 1, slide =>
    if !wanted slide then slide
    else
      match slide.group.up? row slide.marks with
      | none => slide
      | some (group, marks) =>
        slideUpWhile row other wanted fuel
          ⟨group, marks, (slide.beside.previous? other).getD slide.beside⟩

/-- Where the groups of changed lines come to stand that can stand at several places. -/
inductive Placing where
  /-- As far down as they can. -/
  | last
  /-- Where they read best. -/
  | best
  deriving DecidableEq

/-- Moves every group of a row to where it is to stand. -/
def compactFrom (placing : Placing) (lines : Array Bytes) (row : Array Nat) (other : Array Bool) :
    Nat → Slide → Array Bool
  | 0, slide => slide.marks
  | fuel + 1, slide =>
    let slide :=
      if slide.group.start = slide.group.stop then slide
      else
        let (slide, earliest, fitting?) := settle row other (row.size + 1) slide
        if slide.group.stop = earliest then slide
        else
          match fitting? with
          | some _ =>
            slideUpWhile row other (fun slide => slide.beside.start = slide.beside.stop)
              (row.size + 1) slide
          | none =>
            if placing = .last then slide
            else
              let last := slide.group.stop
              let size := last - slide.group.start
              let first := max (max earliest (last - size - 1)) (last - 100)
              let stops := (List.range (last + 1 - first)).map (first + ·)
              let best := bestEnd lines size stops last
              slideUpWhile row other (fun slide => best < slide.group.stop) (row.size + 1) slide
    match slide.group.next? slide.marks, slide.beside.next? other with
    | some group, some beside => compactFrom placing lines row other fuel ⟨group, slide.marks, beside⟩
    | _, _ => slide.marks

/-- Moves every group of a row to where it is to stand, beside the marks of the other row. -/
def compact (placing : Placing) (lines : Array Bytes) (row : Array Nat)
    (marks other : Array Bool) : Array Bool :=
  compactFrom placing lines row other (row.size + 2) ⟨firstGroup marks, marks, firstGroup other⟩

/-- Lines of one row for which lines of the other are put in. -/
structure Change where
  oldStart : Nat
  oldCount : Nat
  newStart : Nat
  newCount : Nat
  deriving DecidableEq

/-- The changes that marks tell, from two places on. -/
def changesFrom (marks : Marks) : Nat → Nat → Nat → List Change
  | 0, _, _ => []
  | fuel + 1, i, j =>
    if marks.old.size ≤ i && marks.new.size ≤ j then []
    else
      let oldStop := endFrom marks.old marks.old.size i
      let newStop := endFrom marks.new marks.new.size j
      if i < oldStop || j < newStop then
        ⟨i, oldStop - i, j, newStop - j⟩ :: changesFrom marks fuel oldStop newStop
      else changesFrom marks fuel (i + 1) (j + 1)

/-- What changes from one row of lines to another. -/
def ofLines (placing : Placing) (old new : Array Bytes) : List Change :=
  let rows := Rows.ofLines old new
  let marks := shortest rows
  let marks := { marks with old := compact placing old rows.old marks.old marks.new }
  let marks := { marks with new := compact placing new rows.new marks.new marks.old }
  changesFrom marks (old.size + new.size + 1) 0 0

/-- The lines of a text, each with the byte that ends it. -/
def linesOf (text : Bytes) : Array Bytes :=
  let pieces := splitAt 0x0A text
  let ended := pieces.dropLast.map (· ++ [0x0A])
  let last := pieces.getLast?.getD []
  (if last = [] then ended else ended ++ [last]).toArray

end ChangelogSql.Text.Difference
