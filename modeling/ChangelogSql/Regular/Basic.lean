/-!
Regular expressions over characters that are known by their numbers. What an
expression takes of a text is told by places: it leads from places of the text
to the places where what it takes can end. Sets of places grow at most to the
length of the text, so an expression never takes long however it is nested.
-/

namespace ChangelogSql.Regular

/-- A set of characters, as ranges of their numbers with both ends. -/
abbrev Ranges := List (Nat × Nat)

/-- A character is in a set. -/
def Ranges.has (ranges : Ranges) (number : Nat) : Bool :=
  ranges.any fun range => range.1 ≤ number && number ≤ range.2

/-- How a place lies to the words around it. -/
inductive WordEdge where
  | edge
  | noEdge
  | start
  | finish
  | noWordBefore
  | noWordAfter
  deriving DecidableEq

/-- What is asked of a place in a text. With `returns` set a carriage return ends a line too, with
the line feed that follows it or alone. -/
inductive Assertion where
  | textStart
  | textEnd
  | lineStart (returns : Bool)
  | lineEnd (returns : Bool)
  | word (side : WordEdge) (letters : Ranges)
  deriving DecidableEq

/-- An expression. A group is known by its number, and `again` takes once more what a group took. -/
inductive Expression where
  | empty
  | one (ranges : Ranges)
  | asserted (assertion : Assertion)
  | sequence (first second : Expression)
  | choice (first second : Expression)
  | repeated (least : Nat) (most? : Option Nat) (inner : Expression)
  | group (number : Nat) (inner : Expression)
  | again (number : Nat)
  deriving Inhabited

/-- A text as the numbers of its characters. -/
abbrev Subject := Array Nat

def lineFeed : Nat :=
  0x0A

def carriageReturn : Nat :=
  0x0D

namespace Assertion

/-- The assertion holds between two characters; there is none at an end of the text. -/
def holdsBetween (assertion : Assertion) (before? after? : Option Nat) : Bool :=
  match assertion with
  | .textStart => before?.isNone
  | .textEnd => after?.isNone
  | .lineStart false => before?.all (· = lineFeed)
  | .lineEnd false => after?.all (· = lineFeed)
  | .lineStart true =>
    before?.all (· = lineFeed) || (before? = some carriageReturn && after? ≠ some lineFeed)
  | .lineEnd true =>
    after?.all (· = carriageReturn) || (after? = some lineFeed && before? ≠ some carriageReturn)
  | .word side letters =>
    let before := before?.any letters.has
    let after := after?.any letters.has
    match side with
    | .edge => before != after
    | .noEdge => before == after
    | .start => !before && after
    | .finish => before && !after
    | .noWordBefore => !before
    | .noWordAfter => !after

/-- The assertion holds at a place. -/
def holds (assertion : Assertion) (subject : Subject) (place : Nat) : Bool :=
  assertion.holdsBetween (if place = 0 then none else subject[place - 1]?) subject[place]?

end Assertion

/-- Places in order, each of them once. -/
abbrev Places := List Nat

namespace Places

/-- The places of both. -/
def union : Places → Places → Places
  | [], others => others
  | place :: places, others =>
    let lower := others.takeWhile (· < place)
    let rest := (others.drop lower.length).dropWhile (· = place)
    lower ++ place :: union places rest

/-- The places that are not among others. -/
def without (places others : Places) : Places :=
  places.filter fun place => !others.contains place

/-- The places a step leads to from places, and all that it leads to from there, `rounds` times at
most; `found` are known already. -/
def closure (step : Places → Places) : Nat → Places → Places → Places
  | 0, _, found => found
  | rounds + 1, fresh, found =>
    let new := (step fresh).without found
    if new = [] then found else closure step rounds new (union found new)

/-- The places that a number of steps lead to. -/
def iterate (step : Places → Places) : Nat → Places → Places
  | 0, places => places
  | count + 1, places => if places = [] then [] else iterate step count (step places)

end Places

namespace Expression

/-- The places where what the expression takes can end, if it begins at one of the given places.
What groups took is not known here. -/
def ends (subject : Subject) : Expression → Places → Places
  | .empty, places => places
  | .one ranges, places =>
    places.filterMap fun place => if subject[place]?.any ranges.has then some (place + 1) else none
  | .asserted assertion, places => places.filter (assertion.holds subject ·)
  | .sequence first second, places => ends subject second (ends subject first places)
  | .choice first second, places =>
    Places.union (ends subject first places) (ends subject second places)
  | .repeated least most? inner, places =>
    let start := Places.iterate (ends subject inner) least places
    let rounds :=
      match most? with
      | none => subject.size + 1
      | some most => most - least
    Places.closure (ends subject inner) rounds start start
  | .group _ inner, places => ends subject inner places
  | .again _, _ => []

/-- The expression takes something of a text, or nothing at some place where it may. -/
def occursIn (expression : Expression) (subject : Subject) : Bool :=
  !(expression.ends subject (List.range (subject.size + 1))).isEmpty

/-- One expression after the other. -/
def ofList : List Expression → Expression
  | [] => .empty
  | [expression] => expression
  | expression :: rest => .sequence expression (ofList rest)

/-- The expression of a single character. -/
def character (number : Nat) : Expression :=
  .one [(number, number)]

/-- An expression that takes nothing at all. -/
def never : Expression :=
  .one []

end Expression

end ChangelogSql.Regular
