import ChangelogSql.Regular.Reader

/-!
What an expression as it is written means. Modes hold from where they are set to
the end of the group; some of what is written has no meaning in some modes. An
expression whose automaton would be too large is refused as well.
-/

namespace ChangelogSql.Regular

/-- The modes at a place of an expression. -/
structure Modes where
  anyCase : Bool
  manyLines : Bool
  dotTakesLines : Bool
  unicode : Bool
  returns : Bool

namespace Modes

/-- The modes outside of all groups. -/
def start : Modes :=
  ⟨false, false, false, true, false⟩

/-- The modes after some were changed. -/
def change (modes : Modes) (changes : Changes) : Modes where
  anyCase := (changes.of? .anyCase).getD modes.anyCase
  manyLines := (changes.of? .manyLines).getD modes.manyLines
  dotTakesLines := (changes.of? .dotTakesLines).getD modes.dotTakesLines
  unicode := (changes.of? .unicode).getD modes.unicode
  returns := (changes.of? .returns).getD modes.returns

/-- A set with the forms its letters have besides, where case does not matter. -/
def folded (modes : Modes) (ranges : Ranges) : Ranges :=
  if modes.anyCase then
    if modes.unicode then Class.withAllCases ranges else Class.withAsciiCases ranges
  else ranges

/-- What words are made of. -/
def letters (modes : Modes) : Ranges :=
  if modes.unicode then Class.word else Class.asciiWord

end Modes

/-- The meaning of something in an expression, or what is wrong with it. -/
abbrev Meaning := Except Fault

namespace Meaning

variable {α : Type}

def fail (trouble : Trouble) (span : Span) : Meaning α :=
  throw ⟨trouble, span, none⟩

/-- A set of single bytes must stay in ASCII, or broken text could be taken. -/
def checked (modes : Modes) (span : Span) (ranges : Ranges) : Meaning Ranges :=
  if modes.unicode || ranges.all fun range => range.2 < 0x80 then return ranges else fail .brokenText span

/-- A set or its complement. Of bytes there are 256. -/
def negatedIf (modes : Modes) (negated : Bool) (ranges : Ranges) : Ranges :=
  if !negated then ranges
  else if modes.unicode then Ranges.complement ranges
  else Ranges.gaps 0 0xFF (Ranges.tidied ranges)

def shorthand (modes : Modes) (span : Span) (letter : Shorthand) (negated : Bool) :
    Meaning Ranges :=
  let ranges :=
    match letter with
    | .digit => if modes.unicode then Class.digit else (Class.ascii? "digit").getD []
    | .blank => if modes.unicode then Class.blank else (Class.ascii? "space").getD []
    | .word => modes.letters
  checked modes span (negatedIf modes negated ranges)

def property (modes : Modes) (span : Span) (wanted : Property) (negated : Bool) :
    Meaning Ranges := do
  unless modes.unicode do
    fail .beyondAscii span
  let (ranges, differs) ←
    match wanted with
    | .named name =>
      match Class.property? name with
      | some ranges => pure (ranges, false)
      | none => fail .propertyUnknown span
    | .valued name value differs =>
      match Class.valued name value with
      | .ok ranges => pure (ranges, differs)
      | .error true => fail .propertyValueUnknown span
      | .error false => fail .propertyUnknown span
  return negatedIf modes (negated != differs) (modes.folded ranges)

/-- The set that a class means, before case and the complement of the whole. -/
def classRanges (modes : Modes) : ClassTree → Meaning Ranges
  | .none => return []
  | .character span c => bound span c >>= fun number => return [(number, number)]
  | .range span low high => do
    return [(← bound span low, ← bound span high)]
  | .ascii _ name negated => return negatedIf modes negated ((Class.ascii? name).getD [])
  | .shorthand span letter negated => shorthand modes span letter negated
  | .property span wanted negated => property modes span wanted negated
  | .both first second => do
    return (← classRanges modes first) ++ (← classRanges modes second)
  | .combined combination first second => do
    let first := modes.folded (← classRanges modes first)
    let second := modes.folded (← classRanges modes second)
    return match combination with
      | .intersection => Ranges.intersection first second
      | .difference => Ranges.difference first second
      | .symmetricDifference => Ranges.symmetricDifference first second
  | .bracket span negated inner => do
    whole span negated (← classRanges modes inner)
where
  /-- A character as a member of a class. -/
  bound (span : Span) (c : Char) : Meaning Nat :=
    if modes.unicode || c.toNat < 0x80 then return c.toNat else fail .beyondAscii span
  /-- A class with its complement taken where it is negated. -/
  whole (span : Span) (negated : Bool) (ranges : Ranges) : Meaning Ranges :=
    checked modes span (negatedIf modes negated (modes.folded ranges))

def anchor (modes : Modes) : Anchor → Assertion
  | .lineStart => if modes.manyLines then .lineStart modes.returns else .textStart
  | .lineEnd => if modes.manyLines then .lineEnd modes.returns else .textEnd
  | .textStart => .textStart
  | .textEnd => .textEnd
  | .word side => .word side modes.letters

def dot (modes : Modes) (span : Span) : Meaning Ranges :=
  if !modes.unicode then fail .brokenText span
  else if modes.dotTakesLines then return Ranges.every
  else if modes.returns then
    return Ranges.complement [(lineFeed, lineFeed), (carriageReturn, carriageReturn)]
  else return Ranges.complement [(lineFeed, lineFeed)]

mutual

/-- The meaning of a tree in some modes, and the modes after it. -/
def ofTree (modes : Modes) : Tree → Meaning (Expression × Modes)
  | .empty => return (.empty, modes)
  | .modes _ changes => return (.empty, modes.change changes)
  | .character span c isByte =>
    if isByte && !modes.unicode && 0x80 ≤ c.toNat then fail .brokenText span
    else
      return (.one (modes.folded [(c.toNat, c.toNat)]), modes)
  | .dot span => do
    return (.one (← dot modes span), modes)
  | .anchor _ asked => return (.asserted (anchor modes asked), modes)
  | .shorthand span letter negated => do
    return (.one (← shorthand modes span letter negated), modes)
  | .property span wanted negated => do
    return (.one (← property modes span wanted negated), modes)
  | .bracket span negated inner => do
    let ranges ← classRanges modes inner
    return (.one (← checked modes span (negatedIf modes negated (modes.folded ranges))), modes)
  | .repeated _ least most? inner => do
    let (inner, modes) ← ofTree modes inner
    return (.repeated least most? inner, modes)
  | .group _ changes inner => do
    let (inner, _) ← ofTree (modes.change changes) inner
    return (.group 0 inner, modes)
  | .sequence _ parts => do
    let (parts, modes) ← ofTrees modes parts
    return (Expression.ofList parts, modes)
  | .choice _ parts => do
    let (parts, modes) ← ofTrees modes parts
    return (parts.foldr Expression.choice Expression.never, modes)

def ofTrees (modes : Modes) : List Tree → Meaning (List Expression × Modes)
  | [] => return ([], modes)
  | tree :: rest => do
    let (expression, modes) ← ofTree modes tree
    let (others, modes) ← ofTrees modes rest
    return (expression :: others, modes)

end

end Meaning

/-- How many bytes the automaton of an expression takes, about. -/
def Expression.weight : Expression → Nat
  | .empty => 32
  | .one ranges => 32 + 16 * ((ranges.filter fun range => 0x80 ≤ range.2).length
      + (ranges.length - 1))
  | .asserted _ | .again _ => 32
  | .sequence first second => first.weight + second.weight
  | .choice first second => 40 + first.weight + second.weight
  | .repeated least most? inner =>
    match most? with
    | none => 64 + max least 1 * inner.weight
    | some most => 32 + least * inner.weight + (most - least) * (40 + inner.weight)
  | .group _ inner => 64 + inner.weight

/-- How large an automaton may be. -/
def weightLimit : Nat :=
  10485760

/-- Why an expression is refused. -/
inductive Refusal where
  | fault (fault : Fault) (text : List Char)
  | tooLarge
  deriving DecidableEq

def Refusal.message : Refusal → String
  | .fault cause text => cause.message text
  | .tooLarge => "Compiled regex exceeds size limit of " ++ toString weightLimit ++ " bytes."

/-- The expression that a text spells. -/
def Expression.ofText (text : List Char) : Except Refusal Expression :=
  match Tree.ofText text >>= Meaning.ofTree Modes.start with
  | .error fault => .error (.fault fault text)
  | .ok (expression, _) =>
    if weightLimit < expression.weight then .error .tooLarge else .ok expression

end ChangelogSql.Regular
