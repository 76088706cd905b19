import ChangelogSql.Numeral.Double

/-!
The values that are computed with when records are gone through. A text that
comes from outside counts as a number where it looks like one.
-/

namespace ChangelogSql.Utility.Records

open Text (ascii)
open Numeral

/-- A value. -/
inductive Value where
  /-- Nothing has been put there yet. -/
  | missing
  | real (number : Binary)
  | text (bytes : Bytes)
  /-- A text from outside. -/
  | given (bytes : Bytes)
  deriving Inhabited

/-- The number that a text begins with; zero where there is none. -/
def numberOf (bytes : Bytes) : Binary :=
  match Reading.ofBytes? .double bytes with
  | some reading => reading.number
  | none => .zero

/-- A blank or a tab. -/
def isBlank (b : UInt8) : Bool :=
  b = ascii ' ' || b = ascii '\t'

/-- The number that a text looks like: a number with nothing but blanks around it, which begins with
a digit, a sign or a point and ends with a digit or a point. -/
def likeness? (bytes : Bytes) : Option Binary :=
  let bytes := ((bytes.dropWhile isBlank).reverse.dropWhile isBlank).reverse
  let isPoint (b : UInt8) : Bool := b = ascii '.'
  match bytes.head?, bytes.getLast? with
  | some first, some last =>
    if (Text.Ascii.isDigit last || isPoint last)
        && (Text.Ascii.isDigit first || isPoint first || first = ascii '+' || first = ascii '-')
    then
      match Reading.ofBytes? .double bytes with
      | some reading => if reading.rest = [] then some reading.number else none
      | none => none
    else none
  | _, _ => none

/-- The greatest number of 64 bits without a sign. -/
def greatestWhole : Nat := twoTo 64 - 1

/-- The greatest number of 64 bits with a sign. -/
def greatestSigned : Int := (twoTo 63 : Int) - 1

/-- The digits of a number that is whole and not too large. -/
def wholeDigits? (number : Binary) : Option Bytes :=
  if number.isWhole then
    let value := number.truncated
    if -greatestSigned - 1 ≤ value && value ≤ (greatestWhole : Int) then some (Text.Ascii.ofInt value)
    else if value = (twoTo 64 : Int) then some (Text.Ascii.ofNat greatestWhole)
    else none
  else none

/-- Flags up front, and what follows them. -/
def flags : Directive → Bytes → Directive × Bytes
  | directive, [] => (directive, [])
  | directive, b :: rest =>
    match directive.withFlag? b with
    | some directive => flags directive rest
    | none => (directive, b :: rest)

/-- The number in a format that has one directive for numbers, with what stands around it. -/
def formatted (format : Bytes) (number : Binary) : Bytes :=
  let before := format.takeWhile (· ≠ ascii '%')
  match format.drop before.length with
  | [] => before
  | _ :: bytes =>
    let (directive, bytes) := flags .plain bytes
    let width := bytes.takeWhile Text.Ascii.isDigit
    let directive := { directive with width := Text.Ascii.value 10 width }
    let bytes := bytes.drop width.length
    let (directive, bytes) : Directive × Bytes :=
      match bytes with
      | 0x2E :: bytes =>
        let digits := bytes.takeWhile Text.Ascii.isDigit
        ({ directive with precision? := some (Text.Ascii.value 10 digits) },
          bytes.drop digits.length)
      | bytes => (directive, bytes)
    match bytes with
    | [] => before
    | letter :: after =>
      let c := Char.ofNat letter.toNat
      let middle : Bytes :=
        if c = 'd' || c = 'i' then directive.signed number.truncated
        else directive.real .double c number
      before ++ middle ++ after

/-- A number as a text, in a format where it is not whole. -/
def textOf (format : Bytes) (number : Binary) : Bytes :=
  match wholeDigits? number with
  | some digits => digits
  | none => formatted format number

namespace Value

/-- The number that a value is. -/
def toNumber : Value → Binary
  | .missing => .zero
  | .real number => number
  | .text bytes | .given bytes => numberOf bytes

/-- The text that a value is; numbers take a format. -/
def toBytes (format : Bytes) : Value → Bytes
  | .missing => []
  | .real number => textOf format number
  | .text bytes | .given bytes => bytes

/-- A value counts as true: a number other than zero, or a text that is not empty. -/
def isTrue : Value → Bool
  | .missing => false
  | .real number => !number.isZero
  | .text bytes => bytes ≠ []
  | .given bytes =>
    match likeness? bytes with
    | some number => !number.isZero
    | none => bytes ≠ []

/-- The number that a value is compared as, where it can be compared as a number. -/
def number? : Value → Option Binary
  | .missing => some .zero
  | .real number => some number
  | .text _ => none
  | .given bytes => likeness? bytes

/-- How two values stand to each other, as numbers where both can be and as texts otherwise. What has
no result is neither less nor greater than anything. -/
def order (format : Bytes) (a b : Value) : Ordering :=
  match a.number?, b.number? with
  | some p, some q =>
    if p.less q then .lt
    else if q.less p then .gt
    else .eq
  | _, _ => compare (a.toBytes format) (b.toBytes format)

end Value

/-- How values are compared. -/
inductive Comparison where
  | less
  | atMost
  | equal
  | unequal
  | atLeast
  | greater
  deriving DecidableEq

/-- An order is one of those that are asked for. -/
def Comparison.holds (comparison : Comparison) (order : Ordering) : Bool :=
  match comparison with
  | .less => order = .lt
  | .atMost => order ≠ .gt
  | .equal => order = .eq
  | .unequal => order ≠ .eq
  | .atLeast => order ≠ .lt
  | .greater => order = .gt

/-- What is computed with two numbers. -/
inductive Arithmetic where
  | plus
  | minus
  | times
  | quotient
  | rest
  | power
  deriving DecidableEq

/-- The result of a computation. -/
def Arithmetic.apply : Arithmetic → Binary → Binary → Binary
  | .plus => .plus
  | .minus => .minus
  | .times => .times
  | .quotient => .dividedBy
  | .rest => .rest
  | .power => .power

end ChangelogSql.Utility.Records
