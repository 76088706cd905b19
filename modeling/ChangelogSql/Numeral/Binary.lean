import ChangelogSql.Text.Ascii

/-!
Numbers as machines hold them: a whole number of limited width times a power of
two, or none of those. Rounding goes to the nearest such number, and from the
middle between two of them to the even one.
-/

namespace ChangelogSql.Numeral

/-- A number as a machine holds it. -/
inductive Binary where
  | finite (isNegative : Bool) (mantissa : Nat) (exponent : Int)
  | infinite (isNegative : Bool)
  /-- What comes of an operation that has no result. -/
  | undefined (isNegative : Bool)
  deriving DecidableEq, Inhabited

/-- What numbers a machine can hold. -/
structure Width where
  /-- How many binary digits the whole number has. -/
  digits : Nat
  /-- The least power of two that it is multiplied with. -/
  least : Int
  /-- The least power of two that is too large. -/
  greatest : Int
  /-- How many binary digits stand before the point when a number is written in hexadecimal. -/
  leading : Nat

/-- Numbers of 64 bits. -/
def Width.double : Width := ⟨53, -1074, 1024, 1⟩

/-- Numbers of 80 bits. -/
def Width.extended : Width := ⟨64, -16445, 16384, 4⟩

/-- The whole number nearest to a quotient, the even one in the middle between two. -/
def roundedQuotient (dividend divisor : Nat) : Nat :=
  let quotient := dividend / divisor
  let rest := 2 * (dividend % divisor)
  if rest < divisor then quotient
  else if divisor < rest then quotient + 1
  else quotient + quotient % 2

/-- A whole number times a power of two, as a quotient. -/
def shifted (number : Nat) (power : Int) : Nat × Nat :=
  match power with
  | .ofNat power => (number <<< power, 1)
  | .negSucc power => (number, 1 <<< (power + 1))

/-- A whole number times a power of ten, as a quotient. -/
def scaled (number : Nat) (power : Int) : Nat × Nat :=
  match power with
  | .ofNat power => (number * Nat.pow 10 power, 1)
  | .negSucc power => (number, Nat.pow 10 (power + 1))

namespace Binary

/-- The number nearest to a quotient. -/
def ofQuotient (width : Width) (isNegative : Bool) (dividend divisor : Nat) : Binary :=
  if dividend = 0 || divisor = 0 then .finite isNegative 0 0
  else
    let guess : Int := (dividend.log2 : Int) - divisor.log2
    let (left, right) := shifted divisor guess
    let order := if left ≤ dividend * right then guess else guess - 1
    let exponent := max width.least (order - (width.digits - 1 : Nat))
    let (numerator, denominator) := shifted dividend (-exponent)
    let mantissa := roundedQuotient numerator (denominator * divisor)
    if mantissa = 0 then .finite isNegative 0 0
    else if width.greatest ≤ (mantissa.log2 : Int) + exponent then .infinite isNegative
    else .finite isNegative mantissa exponent

/-- A whole number, as near as possible. -/
def ofInt (width : Width) (number : Int) : Binary :=
  ofQuotient width (number < 0) number.natAbs 1

def isNegative : Binary → Bool
  | .finite isNegative _ _ | .infinite isNegative | .undefined isNegative => isNegative

def isZero : Binary → Bool
  | .finite _ mantissa _ => mantissa = 0
  | _ => false

/-- The quotient that a number without its sign is. -/
def magnitude : Binary → Nat × Nat
  | .finite _ mantissa exponent => shifted mantissa exponent
  | _ => (0, 1)

/-- The number with its sign turned round. -/
def negated : Binary → Binary
  | .finite isNegative mantissa exponent => .finite (!isNegative) mantissa exponent
  | .infinite isNegative => .infinite (!isNegative)
  | .undefined isNegative => .undefined (!isNegative)

/-- The whole part of a number. -/
def truncated (number : Binary) : Int :=
  let (dividend, divisor) := number.magnitude
  let whole : Int := (dividend / divisor : Nat)
  if number.isNegative then -whole else whole

/-- The number has no fraction. -/
def isWhole (number : Binary) : Bool :=
  match number with
  | .finite .. =>
    let (dividend, divisor) := number.magnitude
    dividend % divisor = 0
  | _ => false

/-- The number that a finite number is, as a quotient with a sign. -/
def quotient (number : Binary) : Int × Nat :=
  let (dividend, divisor) := number.magnitude
  (if number.isNegative then -(dividend : Int) else dividend, divisor)

/-- The sum of two numbers. -/
def add (width : Width) (a b : Binary) : Binary :=
  match a, b with
  | .finite negative .., .finite .. =>
    let (p, q) := a.quotient
    let (r, s) := b.quotient
    let sum := p * (s : Int) + r * (q : Int)
    let isNegative := sum < 0 || (sum = 0 && negative && b.isNegative)
    ofQuotient width isNegative sum.natAbs (q * s)
  | .infinite negative, .infinite other => if negative = other then a else .undefined true
  | .undefined _, _ => a
  | _, .undefined _ => b
  | .infinite _, _ => a
  | _, .infinite _ => b

/-- The product of two numbers. -/
def multiply (width : Width) (a b : Binary) : Binary :=
  let isNegative := a.isNegative != b.isNegative
  match a, b with
  | .finite .., .finite .. =>
    let (p, q) := a.magnitude
    let (r, s) := b.magnitude
    ofQuotient width isNegative (p * r) (q * s)
  | .undefined _, _ => a
  | _, .undefined _ => b
  | _, _ => if a.isZero || b.isZero then .undefined true else .infinite isNegative

/-- A number is less than another one. -/
def less (a b : Binary) : Bool :=
  match a, b with
  | .undefined _, _ | _, .undefined _ => false
  | .infinite negative, _ => negative && b ≠ .infinite true
  | _, .infinite negative => !negative
  | .finite .., .finite .. =>
    let (p, q) := a.quotient
    let (r, s) := b.quotient
    p * (s : Int) < r * (q : Int)

end Binary

end ChangelogSql.Numeral
