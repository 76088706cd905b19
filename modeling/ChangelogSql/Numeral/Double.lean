import ChangelogSql.Numeral.Directive
import ChangelogSql.Numeral.Reader

/-!
Arithmetic with numbers of 64 bits, and the two forms of such a number: a whole
number times a power of two, and the bits that a machine stores.
-/

namespace ChangelogSql.Numeral.Binary

open Text (ascii)

/-- The number that 64 bits stand for. -/
def ofBits (bits : UInt64) : Binary :=
  let isNegative := bits >>> 63 = 1
  let exponent := ((bits >>> 52) &&& 0x7FF).toNat
  let fraction := (bits &&& 0xFFFFFFFFFFFFF).toNat
  if exponent = 0x7FF then
    if fraction = 0 then .infinite isNegative else .undefined isNegative
  else if exponent = 0 then
    if fraction = 0 then .finite isNegative 0 0 else .finite isNegative fraction (-1074)
  else .finite isNegative (fraction + twoTo 52) ((exponent : Int) - 1075)

/-- The 64 bits of a number. -/
def toBits (number : Binary) : UInt64 :=
  let sign (isNegative : Bool) : Nat := if isNegative then twoTo 63 else 0
  match number with
  | .infinite isNegative => UInt64.ofNat (sign isNegative + 0x7FF * twoTo 52)
  | .undefined isNegative => UInt64.ofNat (sign isNegative + 0x7FF * twoTo 52 + twoTo 51)
  | .finite isNegative mantissa exponent =>
    if mantissa = 0 then UInt64.ofNat (sign isNegative)
    else
      let gap := min (52 - mantissa.log2) (exponent + 1074).toNat
      let mantissa := mantissa <<< gap
      let exponent := exponent - gap
      if mantissa < twoTo 52 then UInt64.ofNat (sign isNegative + mantissa)
      else
        UInt64.ofNat (sign isNegative + (exponent + 1075).toNat * twoTo 52 + (mantissa - twoTo 52))

def ofFloat (number : Float) : Binary :=
  ofBits number.toBits

def toFloat (number : Binary) : Float :=
  Float.ofBits number.toBits

/-- A number that a function of the machine's own arithmetic gives. What has no result is negative
unless it comes from what has none. -/
def through (function : Float → Float) (number : Binary) : Binary :=
  match number with
  | .undefined _ => number
  | _ =>
    match ofFloat (function number.toFloat) with
    | .undefined _ => .undefined true
    | result => result

/-- A whole number as one of 64 bits. -/
def ofWhole (number : Int) : Binary :=
  ofInt .double number

def zero : Binary := .finite false 0 0

def one : Binary := .finite false 1 0

def ofBool (value : Bool) : Binary :=
  if value then one else zero

/-- The number is neither infinite nor undefined. -/
def isFinite : Binary → Bool
  | .finite .. => true
  | _ => false

def plus (a b : Binary) : Binary :=
  add .double a b

def minus (a b : Binary) : Binary :=
  match a, b with
  | .undefined _, _ => a
  | _, .undefined _ => b
  | _, _ => add .double a b.negated

def times (a b : Binary) : Binary :=
  multiply .double a b

/-- The quotient of two numbers. -/
def dividedBy (a b : Binary) : Binary :=
  let isNegative := a.isNegative != b.isNegative
  match a, b with
  | .undefined _, _ => a
  | _, .undefined _ => b
  | .infinite _, .infinite _ => .undefined true
  | .infinite _, _ => .infinite isNegative
  | _, .infinite _ => .finite isNegative 0 0
  | .finite .., .finite .. =>
    if b.isZero then if a.isZero then .undefined true else .infinite isNegative
    else
      let (p, q) := a.magnitude
      let (r, s) := b.magnitude
      ofQuotient .double isNegative (p * s) (q * r)

/-- What a division with a whole quotient leaves; it has the sign of the dividend. -/
def rest (a b : Binary) : Binary :=
  match a, b with
  | .undefined _, _ => a
  | _, .undefined _ => b
  | .infinite _, _ => .undefined true
  | _, .infinite _ => a
  | .finite .., .finite .. =>
    if b.isZero then .undefined true
    else
      let (p, q) := a.magnitude
      let (r, s) := b.magnitude
      ofQuotient .double a.isNegative ((p * s) % (r * q)) (q * s)

/-- One number to the power of another. -/
def power (a b : Binary) : Binary :=
  if b.isZero then one
  else
    match a, b with
    | .undefined _, _ => a
    | _, .undefined _ => b
    | _, _ =>
      match ofFloat (Float.pow a.toFloat b.toFloat) with
      | .undefined _ => .undefined true
      | result => result

/-- The whole part of a number, which is zero or has its sign. -/
def wholePart (number : Binary) : Binary :=
  match number with
  | .finite .. => ofQuotient .double number.isNegative number.truncated.natAbs 1
  | _ => number

end ChangelogSql.Numeral.Binary
