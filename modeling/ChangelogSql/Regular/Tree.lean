import ChangelogSql.Regular.Basic
import ChangelogSql.Regular.Fault

/-!
Expressions as they are written. A tree knows where its parts stand in the text,
so that what is wrong with one can be shown there.
-/

namespace ChangelogSql.Regular

/-- A mode that can be turned on and off in an expression. -/
inductive Mode where
  | anyCase
  | manyLines
  | dotTakesLines
  | swappedGreed
  | unicode
  | returns
  | spaced
  deriving DecidableEq

/-- What is turned on and off. -/
abbrev Changes := List (Mode × Bool)

/-- What becomes of a mode. -/
def Changes.of? (changes : Changes) (mode : Mode) : Option Bool :=
  (changes.find? fun change => change.1 = mode).map Prod.snd

/-- The classes with a letter of their own. -/
inductive Shorthand where
  | digit
  | blank
  | word
  deriving DecidableEq

/-- A property by which characters are selected. -/
inductive Property where
  | named (name : String)
  | valued (name value : String) (differs : Bool)
  deriving DecidableEq

/-- A place that is asked for. -/
inductive Anchor where
  | lineStart
  | lineEnd
  | textStart
  | textEnd
  | word (side : WordEdge)
  deriving DecidableEq

/-- How two sets are combined. -/
inductive Combination where
  | intersection
  | difference
  | symmetricDifference
  deriving DecidableEq

/-- A class as it is written between brackets. -/
inductive ClassTree where
  | none
  | character (span : Span) (char : Char)
  | range (span : Span) (low high : Char)
  | ascii (span : Span) (name : String) (negated : Bool)
  | shorthand (span : Span) (shorthand : Shorthand) (negated : Bool)
  | property (span : Span) (property : Property) (negated : Bool)
  | both (first second : ClassTree)
  | combined (combination : Combination) (first second : ClassTree)
  | bracket (span : Span) (negated : Bool) (inner : ClassTree)

/-- An expression as it is written. `isByte` tells that a character was written as the number of a
byte. -/
inductive Tree where
  | empty
  | modes (span : Span) (changes : Changes)
  | character (span : Span) (char : Char) (isByte : Bool)
  | dot (span : Span)
  | anchor (span : Span) (anchor : Anchor)
  | shorthand (span : Span) (shorthand : Shorthand) (negated : Bool)
  | property (span : Span) (property : Property) (negated : Bool)
  | bracket (span : Span) (negated : Bool) (inner : ClassTree)
  | repeated (span : Span) (least : Nat) (most? : Option Nat) (inner : Tree)
  | group (span : Span) (changes : Changes) (inner : Tree)
  | sequence (span : Span) (parts : List Tree)
  | choice (span : Span) (parts : List Tree)
  deriving Inhabited

namespace Tree

/-- Where an expression stands; nothing is known of an empty one. -/
def span? : Tree → Option Span
  | .empty => none
  | .modes span _ | .character span _ _ | .dot span | .anchor span _ | .shorthand span _ _
  | .property span _ _ | .bracket span _ _ | .repeated span _ _ _ | .group span _ _
  | .sequence span _ | .choice span _ => some span

/-- The expression of parts that follow one another. -/
def ofSequence (span : Span) : List Tree → Tree
  | [] => .empty
  | [part] => part
  | parts => .sequence span parts

mutual

/-- The first part, in the order of the text, that is too deep inside others; `left` tells how much
deeper parts may be. -/
def tooDeep? (left : Nat) : Tree → Option Span
  | .bracket span _ _ => if left = 0 then some span else none
  | .repeated span _ _ inner | .group span _ inner =>
    if left = 0 then some span else tooDeep? (left - 1) inner
  | .sequence span parts | .choice span parts =>
    if left = 0 then some span else anyTooDeep? (left - 1) parts
  | _ => none

def anyTooDeep? (left : Nat) : List Tree → Option Span
  | [] => none
  | part :: rest =>
    match tooDeep? left part with
    | some span => some span
    | none => anyTooDeep? left rest

end

end Tree

end ChangelogSql.Regular
