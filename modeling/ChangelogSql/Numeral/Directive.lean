import ChangelogSql.Numeral.Binary

/-!
How numbers and texts are laid out: in a field of a width, to the left or to the
right, with signs, zeros in front, and so many digits behind the point.
-/

namespace ChangelogSql.Numeral

open Text (ascii)

/-- How something is laid out. -/
structure Directive where
  /-- It stands at the left of its field. -/
  isLeft : Bool
  /-- A number that is not negative has a plus sign in front. -/
  hasPlus : Bool
  /-- A number that is not negative has a blank in front. -/
  hasBlank : Bool
  /-- Numbers are written in their other form. -/
  isAlternate : Bool
  /-- The field is filled with zeros. -/
  hasZeros : Bool
  width : Nat
  precision? : Option Nat
  deriving DecidableEq, Inhabited

namespace Directive

/-- Nothing is said. -/
def plain : Directive := ⟨false, false, false, false, false, 0, none⟩

/-- The directive with what a flag says; anything else is no flag. -/
def withFlag? (directive : Directive) (flag : UInt8) : Option Directive :=
  if flag = ascii '-' then some { directive with isLeft := true }
  else if flag = ascii '+' then some { directive with hasPlus := true }
  else if flag = ascii ' ' then some { directive with hasBlank := true }
  else if flag = ascii '#' then some { directive with isAlternate := true }
  else if flag = ascii '0' then some { directive with hasZeros := true }
  else none

/-- The directive with a width that stands among the arguments: a negative one is a flag too. -/
def withWidth (directive : Directive) (width : Int) : Directive :=
  if width < 0 then { directive with isLeft := true, width := width.natAbs }
  else { directive with width := width.natAbs }

/-- The directive with a precision that stands among the arguments: a negative one says nothing. -/
def withPrecision (directive : Directive) (precision : Int) : Directive :=
  { directive with precision? := if precision < 0 then none else some precision.natAbs }

/-- A text in its field; `lead` stays in front of the zeros that fill it. -/
def field (directive : Directive) (zeros : Bool) (lead body : Bytes) : Bytes :=
  let missing := directive.width - (lead.length + body.length)
  if directive.isLeft then lead ++ body ++ List.replicate missing (ascii ' ')
  else if zeros then lead ++ List.replicate missing (ascii '0') ++ body
  else List.replicate missing (ascii ' ') ++ lead ++ body

/-- A text, or its beginning where a precision is given. -/
def text (directive : Directive) (bytes : Bytes) : Bytes :=
  let bytes :=
    match directive.precision? with
    | some precision => bytes.take precision
    | none => bytes
  directive.field false [] bytes

/-- A single byte. -/
def byte (directive : Directive) (byte : UInt8) : Bytes :=
  directive.field false [] [byte]

/-- What stands before a number. -/
def sign (directive : Directive) (isNegative : Bool) : Bytes :=
  if isNegative then [ascii '-']
  else if directive.hasPlus then [ascii '+']
  else if directive.hasBlank then [ascii ' ']
  else []

/-- The digits of a whole number in a base. -/
def digitsOf (base number : Nat) : Bytes :=
  (Nat.toDigits base number).map fun c => c.toUInt8

/-- Digits with zeros in front as the precision says; zero with no digits is nothing. -/
def padded (directive : Directive) (digits : Bytes) : Bytes :=
  match directive.precision? with
  | none => digits
  | some precision =>
    if precision = 0 && digits = [ascii '0'] then []
    else List.replicate (precision - digits.length) (ascii '0') ++ digits

/-- Zeros fill the field of a whole number. -/
def fillsWhole (directive : Directive) : Bool :=
  directive.hasZeros && directive.precision?.isNone

/-- A whole number with its sign. -/
def signed (directive : Directive) (number : Int) : Bytes :=
  directive.field directive.fillsWhole (directive.sign (number < 0))
    (directive.padded (digitsOf 10 number.natAbs))

/-- A whole number without a sign, in the base that a letter stands for. -/
def unsigned (directive : Directive) (letter : Char) (number : Nat) : Bytes :=
  let base := if letter = 'o' then 8 else if letter = 'u' then 10 else 16
  let digits := directive.padded (digitsOf base number)
  let digits := if letter = 'X' then digits.map Text.Ascii.upper else digits
  let digits :=
    if letter = 'o' && directive.isAlternate && digits.head? ≠ some (ascii '0') then
      ascii '0' :: digits
    else digits
  let lead :=
    if base = 16 && directive.isAlternate && number ≠ 0 then [ascii '0', ascii letter] else []
  directive.field directive.fillsWhole lead digits

/-- The whole number nearest to a quotient times a power of ten. -/
def nearest (dividend divisor : Nat) (power : Int) : Nat :=
  match power with
  | .ofNat power => roundedQuotient (dividend * Nat.pow 10 power) divisor
  | .negSucc power => roundedQuotient dividend (divisor * Nat.pow 10 (power + 1))

/-- The power of ten that the first digit of a quotient stands for. -/
def decimalOrder (dividend divisor : Nat) : Int :=
  if dividend = 0 then 0
  else if divisor ≤ dividend then ((Nat.toDigits 10 (dividend / divisor)).length : Int) - 1
  else
    let count := (Nat.toDigits 10 (divisor / dividend)).length
    if dividend * Nat.pow 10 (count - 1) = divisor then -((count - 1 : Nat) : Int)
    else -(count : Int)

/-- Digits with a point before the last `places` of them; the point goes with the last one unless the
alternate form is asked for. -/
def pointed (isAlternate : Bool) (digits : Bytes) (places : Nat) : Bytes :=
  let digits := List.replicate (places + 1 - digits.length) (ascii '0') ++ digits
  let whole := digits.take (digits.length - places)
  let fraction := digits.drop (digits.length - places)
  if places = 0 && !isAlternate then whole else whole ++ ascii '.' :: fraction

/-- A number without an exponent. -/
def positional (isAlternate : Bool) (dividend divisor places : Nat) : Bytes :=
  pointed isAlternate (digitsOf 10 (nearest dividend divisor places)) places

/-- An exponent behind its letter, with so many digits at least. -/
def exponentText (letter : UInt8) (least : Nat) (exponent : Int) : Bytes :=
  let digits := digitsOf 10 exponent.natAbs
  letter :: (if exponent < 0 then ascii '-' else ascii '+')
    :: (List.replicate (least - digits.length) (ascii '0') ++ digits)

/-- The digits of a number of which the first stands before the point, and its exponent. -/
def scientificDigits (dividend divisor places : Nat) : Bytes × Int :=
  let order := decimalOrder dividend divisor
  let digits := digitsOf 10 (nearest dividend divisor ((places : Int) - order))
  if dividend = 0 then (List.replicate (places + 1) (ascii '0'), 0)
  else if digits.length = places + 2 then (digits.dropLast, order + 1)
  else (digits, order)

/-- A number with an exponent. -/
def scientific (isAlternate : Bool) (letter : UInt8) (dividend divisor places : Nat) : Bytes :=
  let (digits, exponent) := scientificDigits dividend divisor places
  pointed isAlternate digits places ++ exponentText letter 2 exponent

/-- A text without the zeros at the end of its fraction. -/
def withoutZeros (bytes : Bytes) : Bytes :=
  if bytes.contains (ascii '.') then
    let bytes := (bytes.reverse.dropWhile (· = ascii '0')).reverse
    if bytes.getLast? = some (ascii '.') then bytes.dropLast else bytes
  else bytes

/-- A number in the shorter of both forms. -/
def general (isAlternate : Bool) (letter : UInt8) (dividend divisor precision : Nat) : Bytes :=
  let precision := max precision 1
  let (digits, exponent) := scientificDigits dividend divisor (precision - 1)
  let trim (bytes : Bytes) : Bytes := if isAlternate then bytes else withoutZeros bytes
  if -4 ≤ exponent && exponent < (precision : Int) then
    trim (positional isAlternate dividend divisor ((precision : Int) - 1 - exponent).toNat)
  else
    trim (pointed isAlternate digits (precision - 1)) ++ exponentText letter 2 exponent

/-- A number in hexadecimal with a binary exponent. -/
def hexadecimal (width : Width) (directive : Directive) (mantissa : Nat) (exponent : Int) :
    Bytes :=
  let hexPlaces := (width.digits - width.leading) / 4
  let bits := 4 * hexPlaces
  let (mantissa, exponent) :=
    if mantissa = 0 then (0, -(bits : Int))
    else
      let gap := min (width.digits - 1 - mantissa.log2 : Nat) (exponent - width.least).toNat
      (mantissa <<< gap, exponent - gap)
  let places := min hexPlaces (directive.precision?.getD hexPlaces)
  let rounded := roundedQuotient mantissa (1 <<< (4 * (hexPlaces - places)))
  let whole := rounded >>> (4 * places)
  let fraction := digitsOf 16 (rounded % (1 <<< (4 * places)))
  let fraction :=
    if places = 0 then [] else List.replicate (places - fraction.length) (ascii '0') ++ fraction
  let fraction :=
    match directive.precision? with
    | none => (fraction.reverse.dropWhile (· = ascii '0')).reverse
    | some precision => fraction ++ List.replicate (precision - places) (ascii '0')
  let point := if fraction = [] && !directive.isAlternate then [] else [ascii '.']
  let exponent := if mantissa = 0 then 0 else exponent + bits
  digitsOf 16 whole ++ point ++ fraction ++ exponentText (ascii 'p') 1 exponent

/-- A number as the letter of a conversion says. -/
def real (width : Width) (directive : Directive) (letter : Char) (number : Binary) : Bytes :=
  let isCapital := letter.isUpper
  let inCase (bytes : Bytes) : Bytes := if isCapital then bytes.map Text.Ascii.upper else bytes
  let lead := directive.sign number.isNegative
  match number with
  | .infinite _ => directive.field false lead (inCase (Bytes.ofString "inf"))
  | .undefined _ => directive.field false lead (inCase (Bytes.ofString "nan"))
  | .finite _ mantissa exponent =>
    let (dividend, divisor) := number.magnitude
    let precision := directive.precision?.getD 6
    match letter.toLower with
    | 'e' =>
      directive.field directive.hasZeros lead
        (inCase (scientific directive.isAlternate (ascii 'e') dividend divisor precision))
    | 'f' =>
      directive.field directive.hasZeros lead
        (positional directive.isAlternate dividend divisor precision)
    | 'g' =>
      directive.field directive.hasZeros lead
        (inCase (general directive.isAlternate (ascii 'e') dividend divisor precision))
    | _ =>
      directive.field directive.hasZeros (lead ++ inCase (Bytes.ofString "0x"))
        (inCase (hexadecimal width directive mantissa exponent))

end Directive

end ChangelogSql.Numeral
