import ChangelogSql.Text.Utf8

/-!
Bytes that stand for ASCII characters, and numbers written with them: sums, and powers
of two and of ten.
-/

namespace ChangelogSql.Numeral

/-- The sum of some numbers. -/
def total (numbers : List Nat) : Nat :=
  numbers.foldl (fun sum number => sum + number) 0

/-- A power of two. -/
def twoTo (power : Nat) : Nat :=
  Nat.pow 2 power

/-- A power of ten. -/
def tenTo (power : Nat) : Nat :=
  Nat.pow 10 power

end ChangelogSql.Numeral

namespace ChangelogSql.Text

/-- The byte of an ASCII character. -/
def ascii (c : Char) : UInt8 :=
  c.toUInt8

namespace Ascii

def isDigit (b : UInt8) : Bool :=
  ascii '0' ≤ b && b ≤ ascii '9'

def isOctal (b : UInt8) : Bool :=
  ascii '0' ≤ b && b ≤ ascii '7'

def isLetter (b : UInt8) : Bool :=
  (ascii 'a' ≤ b && b ≤ ascii 'z') || (ascii 'A' ≤ b && b ≤ ascii 'Z')

def isUpper (b : UInt8) : Bool :=
  ascii 'A' ≤ b && b ≤ ascii 'Z'

def isLower (b : UInt8) : Bool :=
  ascii 'a' ≤ b && b ≤ ascii 'z'

/-- A letter as a capital; anything else stays as it is. -/
def upper (b : UInt8) : UInt8 :=
  if isLower b then b - 32 else b

/-- A letter as a small one; anything else stays as it is. -/
def lower (b : UInt8) : UInt8 :=
  if isUpper b then b + 32 else b

/-- A blank, or one of the bytes that end or move a line. -/
def isSpace (b : UInt8) : Bool :=
  b = ascii ' ' || (0x09 ≤ b && b ≤ 0x0D)

/-- The value of a hexadecimal digit. -/
def hexDigit? (b : UInt8) : Option Nat :=
  if isDigit b then some (b.toNat - 48)
  else if ascii 'a' ≤ b && b ≤ ascii 'f' then some (b.toNat - 87)
  else if ascii 'A' ≤ b && b ≤ ascii 'F' then some (b.toNat - 55)
  else none

/-- The kinds of bytes that have names in patterns. -/
inductive Kind where
  | alnum
  | alpha
  | blank
  | cntrl
  | digit
  | graph
  | lower
  | print
  | punct
  | space
  | upper
  | xdigit
  deriving DecidableEq

/-- The kinds by their names. -/
def kinds : List (String × Kind) :=
  [("alnum", .alnum), ("alpha", .alpha), ("blank", .blank), ("cntrl", .cntrl), ("digit", .digit),
    ("graph", .graph), ("lower", .lower), ("print", .print), ("punct", .punct), ("space", .space),
    ("upper", .upper), ("xdigit", .xdigit)]

/-- A byte is of a kind. Only ASCII characters are of any. -/
def Kind.holds (kind : Kind) (b : UInt8) : Bool :=
  match kind with
  | .alnum => isLetter b || isDigit b
  | .alpha => isLetter b
  | .blank => b = ascii ' ' || b = ascii '\t'
  | .cntrl => b < 0x20 || b = 0x7F
  | .digit => isDigit b
  | .graph => 0x21 ≤ b && b ≤ 0x7E
  | .lower => isLower b
  | .print => 0x20 ≤ b && b ≤ 0x7E
  | .punct => 0x21 ≤ b && b ≤ 0x7E && !(isLetter b || isDigit b)
  | .space => isSpace b
  | .upper => isUpper b
  | .xdigit => (hexDigit? b).isSome

/-- A byte that a name may begin with. -/
def isNameStart (b : UInt8) : Bool :=
  isLetter b || b = ascii '_'

/-- A byte that a name may go on with. -/
def isNameByte (b : UInt8) : Bool :=
  isNameStart b || isDigit b

/-- Bytes that form a name: letters, digits and underscores, no digit in front. -/
def isName (bytes : Bytes) : Bool :=
  (bytes.head?.map isNameStart).getD false && bytes.all isNameByte

/-- The value of the digits, most significant first, in a given base. -/
def value (base : Nat) (digits : Bytes) : Nat :=
  digits.foldl (fun value digit => value * base + (digit.toNat - (ascii '0').toNat)) 0

/-- The number that decimal digits write, where there are some and nothing else. -/
def decimal? (bytes : Bytes) : Option Nat :=
  if bytes ≠ [] && bytes.all isDigit then some (value 10 bytes) else none

/-- The number that decimal digits write, after an optional sign. -/
def integer? (bytes : Bytes) : Option Int :=
  match bytes with
  | [] => none
  | sign :: digits =>
    if sign = ascii '-' then (decimal? digits).map fun n => -(n : Int)
    else if sign = ascii '+' then (decimal? digits).map Int.ofNat
    else (decimal? bytes).map Int.ofNat

/-- A number in decimal. -/
def ofNat (n : Nat) : Bytes :=
  Bytes.ofString (toString n)

/-- A number in decimal, with a sign where it is negative. -/
def ofInt (n : Int) : Bytes :=
  if n < 0 then ascii '-' :: ofNat n.natAbs else ofNat n.natAbs

end Ascii

end ChangelogSql.Text
