import ChangelogSql.Text.Search

/-!
Why a text is no expression, and how that is shown: the text line by line, with
marks under the characters that are to blame, and then the reason.
-/

namespace ChangelogSql.Regular

/-- A stretch of a text, by the numbers of its first character and of the one after its last. -/
structure Span where
  start : Nat
  finish : Nat
  deriving DecidableEq

/-- What is wrong with a text that should be an expression. -/
inductive Trouble where
  | classEscape
  | classRangeOrder
  | classRangeBound
  | classUnclosed
  | numberInvalid
  | hexEmpty
  | hexInvalid
  | hexDigit
  | escapeUnfinished
  | escapeUnknown
  | flagDangling
  | flagTwice
  | flagNegatedTwice
  | flagMissing
  | flagUnknown
  | nameTwice
  | nameEmpty
  | nameInvalid
  | nameUnfinished
  | groupUnclosed
  | groupUnopened
  | tooDeep
  | countOrder
  | countEmpty
  | countUnclosed
  | nothingToRepeat
  | boundaryUnclosed
  | boundaryUnknown
  | boundaryUnfinished
  | propertyInvalid
  | backreference
  | lookAround
  | beyondAscii
  | brokenText
  | propertyUnknown
  | propertyValueUnknown
  deriving DecidableEq

/-- How deep expressions can be inside one another. -/
def depthLimit : Nat :=
  250

def Trouble.message : Trouble → String
  | .classEscape => "invalid escape sequence found in character class"
  | .classRangeOrder => "invalid character class range, the start must be <= the end"
  | .classRangeBound => "invalid range boundary, must be a literal"
  | .classUnclosed => "unclosed character class"
  | .numberInvalid => "decimal literal invalid"
  | .hexEmpty => "hexadecimal literal empty"
  | .hexInvalid => "hexadecimal literal is not a Unicode scalar value"
  | .hexDigit => "invalid hexadecimal digit"
  | .escapeUnfinished => "incomplete escape sequence, reached end of pattern prematurely"
  | .escapeUnknown => "unrecognized escape sequence"
  | .flagDangling => "dangling flag negation operator"
  | .flagTwice => "duplicate flag"
  | .flagNegatedTwice => "flag negation operator repeated"
  | .flagMissing => "expected flag but got end of regex"
  | .flagUnknown => "unrecognized flag"
  | .nameTwice => "duplicate capture group name"
  | .nameEmpty => "empty capture group name"
  | .nameInvalid => "invalid capture group character"
  | .nameUnfinished => "unclosed capture group name"
  | .groupUnclosed => "unclosed group"
  | .groupUnopened => "unopened group"
  | .tooDeep =>
    "exceed the maximum number of nested parentheses/brackets (" ++ toString depthLimit ++ ")"
  | .countOrder => "invalid repetition count range, the start must be <= the end"
  | .countEmpty => "repetition quantifier expects a valid decimal"
  | .countUnclosed => "unclosed counted repetition"
  | .nothingToRepeat => "repetition operator missing expression"
  | .boundaryUnclosed =>
    "special word boundary assertion is either unclosed or contains an invalid character"
  | .boundaryUnknown =>
    "unrecognized special word boundary assertion, valid choices are: start, end, start-half "
      ++ "or end-half"
  | .boundaryUnfinished =>
    "found either the beginning of a special word boundary or a bounded repetition on a \\b with "
      ++ "an opening brace, but no closing brace"
  | .propertyInvalid => "invalid Unicode character class"
  | .backreference => "backreferences are not supported"
  | .lookAround => "look-around, including look-ahead and look-behind, is not supported"
  | .beyondAscii => "Unicode not allowed here"
  | .brokenText => "pattern can match invalid UTF-8"
  | .propertyUnknown => "Unicode property not found"
  | .propertyValueUnknown => "Unicode property value not found"

/-- A trouble, where it lies, and where what it collides with lies. -/
structure Fault where
  trouble : Trouble
  span : Span
  other? : Option Span := none
  deriving DecidableEq

namespace Fault

/-- The line of a place and its column in it, both from zero on. -/
def position (text : List Char) (place : Nat) : Nat × Nat :=
  let before := text.take place
  (before.count '\n', (before.reverse.takeWhile (· ≠ '\n')).length)

/-- The lines of a text, without the one that would begin after a line end at the end. -/
def lines (text : List Char) : List (List Char) :=
  let pieces := Text.splitAt '\n' text
  let pieces := if pieces.getLast? = some [] then pieces.dropLast else pieces
  pieces.map fun line => if line.getLast? = some '\r' then line.dropLast else line

/-- Marks under the stretches of a line, which begin and end at the given columns; `column` is where
the marks go on. Every stretch gets a mark. -/
def marks : Nat → List (Nat × Nat) → List Char
  | _, [] => []
  | column, (start, finish) :: rest =>
    let width := max 1 (finish - start)
    List.replicate (start - column) ' ' ++ List.replicate width '^'
      ++ marks (max column start + width) rest

/-- The stretches of a fault in their order. -/
def spans (fault : Fault) : List Span :=
  (fault.span :: fault.other?.toList).mergeSort fun span other =>
    span.start < other.start || (span.start = other.start && span.finish ≤ other.finish)

/-- What a fault says about a text. Lines are numbered where there are several. -/
def message (fault : Fault) (text : List Char) : String :=
  let isLong := text.contains '\n'
  let count := text.count '\n' + 1
  let width := if isLong then (toString count).length else 0
  let positions := fault.spans.map fun span =>
    (position text span.start, position text span.finish)
  let inLine (number : Nat) : List (Nat × Nat) :=
    (positions.filter fun span => span.1.1 = number && span.2.1 = number).map fun span =>
      (span.1.2, span.2.2)
  let shown := (lines text).zipIdx.map fun (line, number) =>
    let label :=
      if isLong then
        let digits := toString (number + 1)
        String.ofList (List.replicate (width - digits.length) ' ') ++ digits ++ ": "
      else "    "
    let notes := inLine number
    let under :=
      if notes.isEmpty then ""
      else String.ofList (List.replicate label.length ' ' ++ marks 0 notes) ++ "\n"
    label ++ String.ofList line ++ "\n" ++ under
  let divider := if isLong then String.ofList (List.replicate 79 '~') ++ "\n" else ""
  let acrossLines := (positions.filter fun span => span.1.1 ≠ span.2.1).map fun (start, finish) =>
    "on line " ++ toString (start.1 + 1) ++ " (column " ++ toString (start.2 + 1)
      ++ ") through line " ++ toString (finish.1 + 1) ++ " (column " ++ toString finish.2 ++ ")\n"
  "regex parse error:\n" ++ divider ++ String.join shown ++ divider ++ String.join acrossLines
    ++ "error: " ++ fault.trouble.message

end Fault

end ChangelogSql.Regular
