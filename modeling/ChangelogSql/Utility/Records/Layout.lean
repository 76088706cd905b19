import ChangelogSql.Utility.Records.Value

/-!
Values laid out by a format. What has been laid out before something goes wrong
is kept.
-/

namespace ChangelogSql.Utility.Records

open Text (ascii)
open Numeral

/-- Why values cannot be laid out. -/
inductive LayoutProblem where
  | missing
  /-- The directive of a value is none; the values are counted from one on. -/
  | improper (number : Nat)
  deriving DecidableEq

/-- A format that is gone through: the values that are left, what stands there so far with the last
part first, and how many directives there were. -/
structure Layout where
  values : List Value
  parts : List Bytes
  count : Nat
  problem? : Option LayoutProblem

namespace Layout

def add (layout : Layout) (bytes : Bytes) : Layout :=
  { layout with parts := bytes :: layout.parts }

def failed (layout : Layout) (problem : LayoutProblem) : Layout :=
  { layout with problem? := some problem }

/-- The whole number that is nearest to zero among those that a number is written as. -/
def wholeOf (number : Binary) : Int :=
  match number with
  | .infinite isNegative => if isNegative then -greatestSigned else greatestWhole
  | .undefined _ => -greatestSigned - 1
  | number =>
    let value := number.truncated
    if value < -greatestSigned - 1 then -greatestSigned else min value greatestWhole

/-- The number without a sign that a number is written as. -/
def naturalOf (number : Binary) : Nat :=
  match number with
  | .infinite isNegative => if isNegative then 1 else greatestWhole
  | .undefined _ => twoTo 63
  | number =>
    let value := max (min number.truncated greatestWhole) (-(greatestWhole : Int))
    (value % (twoTo 64 : Int)).toNat

/-- The byte that a value stands for. -/
def byteOf : Value → UInt8
  | .missing => 0
  | .real number => UInt8.ofNat (naturalOf number)
  | .text bytes => bytes.head?.getD 0
  | .given bytes =>
    match likeness? bytes with
    | some number => UInt8.ofNat (naturalOf number)
    | none => bytes.head?.getD 0

/-- A value as a letter says; nothing where the letter is none of a directive. -/
def converted? (keyFormat : Bytes) (directive : Directive) (isLong : Bool) (letter : Char)
    (value : Value) : Option Bytes :=
  if letter = 'd' || letter = 'i' then some (directive.signed (wholeOf value.toNumber))
  else if ['o', 'x', 'X', 'u'].contains letter then
    some (directive.unsigned letter (naturalOf value.toNumber))
  else if isLong then none
  else if letter = 'c' then some (directive.byte (byteOf value))
  else if letter = 's' then some (directive.text (value.toBytes keyFormat))
  else if ['e', 'E', 'f', 'F', 'g', 'G'].contains letter then
    some (directive.real .double letter value.toNumber)
  else none

/-- A number up front, which can be one of the values; nothing where that value is missing. -/
def bound? (values : List Value) (bytes : Bytes) : Option (Option Int × Bytes × List Value) :=
  match bytes with
  | 0x2A :: rest =>
    match values with
    | [] => none
    | value :: values => some (some (wholeOf value.toNumber), rest, values)
  | _ =>
    let digits := bytes.takeWhile Text.Ascii.isDigit
    let number? := if digits = [] then none else some (Int.ofNat (Text.Ascii.value 10 digits))
    some (number?, bytes.drop digits.length, values)

/-- A directive behind its percent sign, and what follows it. -/
def directive (keyFormat : Bytes) (layout : Layout) (bytes : Bytes) : Layout × Bytes :=
  let (plain, rest) := flags .plain bytes
  match bound? layout.values rest with
  | none => (layout.failed .missing, [])
  | some (width?, rest, values) =>
    let wide := plain.withWidth (width?.getD 0)
    let precise? : Option (Directive × Bytes × List Value) :=
      match rest with
      | 0x2E :: rest =>
        (bound? values rest).map fun (precision?, rest, values) =>
          (wide.withPrecision (precision?.getD 0), rest, values)
      | rest => some (wide, rest, values)
    match precise? with
    | none | some (_, _, []) => (layout.failed .missing, [])
    | some (directive, rest, value :: values) =>
      let isLong := rest.head? = some (ascii 'l') || rest.head? = some (ascii 'h')
      let rest := if isLong then rest.drop 1 else rest
      let number := layout.count + 1
      match rest with
      | [] => (layout.failed (.improper number), [])
      | letter :: rest =>
        match converted? keyFormat directive isLong (Char.ofNat letter.toNat) value with
        | some text => (⟨values, text :: layout.parts, number, none⟩, rest)
        | none => (layout.failed (.improper number), [])

/-- Goes through a format. `fuel` bounds its length. -/
def go (keyFormat : Bytes) : Nat → Layout → Bytes → Layout
  | 0, layout, _ => layout
  | _, layout, [] => layout
  | fuel + 1, layout, b :: rest =>
    if b ≠ ascii '%' then
      let plain := (b :: rest).takeWhile (· ≠ ascii '%')
      go keyFormat fuel (layout.add plain) ((b :: rest).drop plain.length)
    else
      match rest with
      | 0x25 :: rest => go keyFormat fuel (layout.add [b]) rest
      | rest =>
        let (layout, rest) := directive keyFormat layout rest
        if layout.problem?.isSome then layout else go keyFormat fuel layout rest

/-- What values look like in a format, as far as nothing goes wrong. -/
def ofValues (keyFormat format : Bytes) (values : List Value) : Bytes × Option LayoutProblem :=
  let layout := go keyFormat (format.length + 1) ⟨values, [], 0, none⟩ format
  (layout.parts.reverse.flatten, layout.problem?)

end Layout

/-- The text of a problem in a format that a function was called with. -/
def LayoutProblem.message (problem : LayoutProblem) (function : String) (format : Bytes) : Bytes :=
  let call := Bytes.ofString (function ++ "(\"") ++ format ++ Bytes.ofString "\")"
  match problem with
  | .missing => Bytes.ofString "not enough arguments passed to " ++ call
  | .improper number =>
    Bytes.ofString "improper conversion(number " ++ Text.Ascii.ofNat number
      ++ Bytes.ofString ") in " ++ call

end ChangelogSql.Utility.Records
