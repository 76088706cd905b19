import ChangelogSql.Text.Ascii

/-!
Arithmetic expressions of a shell: whole numbers of 64 bits that wrap around,
variables and assignments to them. An operand that cannot decide the result any
more is read and not evaluated.
-/

namespace ChangelogSql.Shell.Arithmetic

open Text (ascii)

/-- Why an expression has no value. -/
inductive Fault where
  /-- It is not written as an expression, or divides by zero: what is wrong with it. -/
  | malformed (message : String)
  /-- A variable in it holds something that is no number. -/
  | illegalNumber (value : Bytes)
  /-- A quotient that 64 bits cannot hold. -/
  | overflow
  deriving DecidableEq

/-- A token of an expression. -/
inductive Token where
  | number (value : Int)
  | name (name : Bytes)
  | sign (sign : String)
  /-- A byte that no token begins with. -/
  | stray
  deriving DecidableEq

/-- The operators, longer ones before their beginnings. -/
def signs : List String :=
  ["<<=", ">>=", "<<", ">>", "<=", ">=", "==", "!=", "&&", "||", "+=", "-=", "*=", "/=", "%=",
    "&=", "^=", "|=", "<", ">", "+", "-", "*", "/", "%", "&", "^", "|", "!", "~", "(", ")", "?",
    ":", "="]

/-- How many numbers 64 bits can hold. -/
def modulus : Nat :=
  0x10000000000000000

/-- The largest number. -/
def largest : Nat :=
  0x7FFFFFFFFFFFFFFF

/-- A number with the sign bit where 64 bits have it. -/
def wrap (n : Int) : Int :=
  n.bmod modulus

/-- The digits of a base up front: their value, and what follows them. -/
def digitsUpFront (base : Nat) (text : Bytes) : Nat × Bytes :=
  let run := text.takeWhile fun b => (Text.Ascii.hexDigit? b).any (· < base)
  let values := run.filterMap Text.Ascii.hexDigit?
  (values.foldl (fun value digit => value * base + digit) 0, text.drop run.length)

/-- The number up front, in hexadecimal after `0x`, in octal after `0`, else in decimal, and what
follows it. -/
def unsigned? (text : Bytes) : Option (Nat × Bytes) :=
  match text with
  | [] => none
  | b :: rest =>
    if b = ascii '0' then
      match rest with
      | 0x78 :: digit :: digits | 0x58 :: digit :: digits =>
        if (Text.Ascii.hexDigit? digit).isSome then some (digitsUpFront 16 (digit :: digits))
        else some (0, rest)
      | _ => some (digitsUpFront 8 text)
    else if Text.Ascii.isDigit b then some (digitsUpFront 10 text)
    else none

/-- The number up front behind blanks and a sign, and what follows it. It may be too large. -/
def integer? (text : Bytes) : Option (Int × Bytes) :=
  let text := text.dropWhile Text.Ascii.isSpace
  match text with
  | 0x2D :: rest => (unsigned? rest).map fun (value, rest) => (-(value : Int), rest)
  | 0x2B :: rest => (unsigned? rest).map fun (value, rest) => ((value : Int), rest)
  | text => (unsigned? text).map fun (value, rest) => ((value : Int), rest)

/-- A number that 64 bits can hold. -/
def fits (n : Int) : Bool :=
  -(largest : Int) - 1 ≤ n && n ≤ largest

/-- The number that a variable's value writes. Nothing and blanks write zero. -/
def ofValue? (value : Bytes) : Option Int :=
  let (number, rest) := (integer? value).getD (0, value)
  if (rest.dropWhile Text.Ascii.isSpace) = [] && fits number then some number else none

/-- The tokens of an expression; `fuel` bounds their number. -/
def tokens : Nat → Bytes → List Token
  | _, [] => []
  | 0, _ :: _ => [.stray]
  | fuel + 1, b :: rest =>
    if b = ascii ' ' || b = ascii '\t' || b = 0x0A then tokens fuel rest
    else
      match unsigned? (b :: rest) with
      | some (value, rest) => .number (min value largest) :: tokens fuel rest
      | none =>
        if Text.Ascii.isNameStart b then
          let run := (b :: rest).takeWhile Text.Ascii.isNameByte
          .name run :: tokens fuel ((b :: rest).drop run.length)
        else
          match signs.find? fun sign => (Bytes.ofString sign).isPrefixOf (b :: rest) with
          | some sign => .sign sign :: tokens fuel ((b :: rest).drop sign.utf8ByteSize)
          | none => [.stray]

/-- The binary operators that are always evaluated, those that bind least first. -/
def levels : List (List String) :=
  [["|"], ["^"], ["&"], ["==", "!="], ["<=", ">=", "<", ">"], ["<<", ">>"], ["+", "-"],
    ["*", "/", "%"]]

def ofBool (b : Bool) : Int :=
  if b then 1 else 0

/-- Two numbers combined bit by bit. -/
def bitwise (combine : UInt64 → UInt64 → UInt64) (a b : Int) : Int :=
  wrap (combine (UInt64.ofInt a) (UInt64.ofInt b)).toNat

/-- The value of a quotient or a remainder. -/
def divided (divide : Int → Int → Int) (a b : Int) : Except Fault Int :=
  if b = 0 then .error (.malformed "division by zero")
  else if !fits (a.tdiv b) then .error .overflow
  else .ok (divide a b)

/-- The value of a binary operation. -/
def apply (sign : String) (a b : Int) : Except Fault Int :=
  match sign with
  | "|" => .ok (bitwise (· ||| ·) a b)
  | "^" => .ok (bitwise (· ^^^ ·) a b)
  | "&" => .ok (bitwise (· &&& ·) a b)
  | "==" => .ok (ofBool (a = b))
  | "!=" => .ok (ofBool (a ≠ b))
  | "<=" => .ok (ofBool (a ≤ b))
  | ">=" => .ok (ofBool (b ≤ a))
  | "<" => .ok (ofBool (a < b))
  | ">" => .ok (ofBool (b < a))
  | "<<" => .ok (wrap (a * Int.ofNat (1 <<< (b % 64).toNat)))
  | ">>" => .ok (a >>> (b % 64).toNat)
  | "+" => .ok (wrap (a + b))
  | "-" => .ok (wrap (a - b))
  | "*" => .ok (wrap (a * b))
  | "/" => divided Int.tdiv a b
  | _ => divided Int.tmod a b

/-- What is left of an expression, and the assignments made so far, the last first. -/
structure Progress where
  rest : List Token
  assigned : List (Bytes × Int)

/-- A step in the evaluation of an expression. -/
abbrev Step := StateT Progress (Except Fault)

def complain {α : Type} (message : String) : Step α :=
  throw (.malformed message)

/-- The next token, which is left. -/
def peek? : Step (Option Token) := do
  return (← get).rest.head?

/-- Passes over a token. -/
def advance : Step Unit :=
  modify fun progress => { progress with rest := progress.rest.drop 1 }

/-- Takes an operator where it comes next, and tells whether it did. -/
def trySign (sign : String) : Step Bool := do
  if (← peek?) = some (.sign sign) then
    advance
    return true
  else return false

/-- The number a variable holds. -/
def valueOf (lookUp : Bytes → Option Bytes) (name : Bytes) : Step Int := do
  match (← get).assigned.lookup name with
  | some value => return value
  | none =>
    let text := (lookUp name).getD []
    match ofValue? text with
    | some value => return value
    | none => throw (.illegalNumber text)

/-- The operation that belongs to an assignment with an operator in it; nothing belongs to a plain
one. -/
def assignment? (sign : String) : Option (Option String) :=
  if sign = "=" then some none
  else if ["<<=", ">>=", "+=", "-=", "*=", "/=", "%=", "&=", "^=", "|="].contains sign then
    some (some (sign.dropEnd 1).copy)
  else none

mutual

/-- An operand: a number, a name, an expression in parentheses, or an operand with a sign. Where
`idle` is set, nothing is evaluated. -/
def operand (lookUp : Bytes → Option Bytes) : Nat → Bool → Step Int
  | 0, _ => complain "expecting primary"
  | fuel + 1, idle => do
    match ← peek? with
    | some (.number value) =>
      advance
      return value
    | some (.name name) =>
      advance
      if idle then return 0 else valueOf lookUp name
    | some (.sign "(") =>
      advance
      let value ← expression lookUp fuel idle
      unless ← trySign ")" do
        complain "expecting ')'"
      return value
    | some (.sign "-") =>
      advance
      return wrap (-(← operand lookUp fuel idle))
    | some (.sign "+") =>
      advance
      operand lookUp fuel idle
    | some (.sign "!") =>
      advance
      return ofBool ((← operand lookUp fuel idle) = 0)
    | some (.sign "~") =>
      advance
      return wrap (-(← operand lookUp fuel idle) - 1)
    | _ => complain "expecting primary"

/-- Operands joined by the operators of the given levels. -/
def joined (lookUp : Bytes → Option Bytes) : Nat → Bool → List (List String) → Step Int
  | 0, _, _ => complain "expecting primary"
  | fuel + 1, idle, [] => operand lookUp fuel idle
  | fuel + 1, idle, level :: tighter => do
    joinedFrom lookUp fuel idle level tighter (← joined lookUp fuel idle tighter)

/-- What follows a first operand on one level. -/
def joinedFrom (lookUp : Bytes → Option Bytes) :
    Nat → Bool → List String → List (List String) → Int → Step Int
  | 0, _, _, _, value => return value
  | fuel + 1, idle, level, tighter, value => do
    match ← peek? with
    | some (.sign sign) =>
      if level.contains sign then
        advance
        let other ← joined lookUp fuel idle tighter
        let value ← if idle then pure other else liftM (apply sign value other)
        joinedFrom lookUp fuel idle level tighter value
      else return value
    | _ => return value

/-- Operands joined by `&&`. -/
def conjunction (lookUp : Bytes → Option Bytes) : Nat → Bool → Step Int
  | 0, _ => complain "expecting primary"
  | fuel + 1, idle => do
    let value ← joined lookUp fuel idle levels
    if ← trySign "&&" then
      let other ← conjunction lookUp fuel (idle || value = 0)
      return ofBool (value ≠ 0 && other ≠ 0)
    else return value

/-- Operands joined by `||`. -/
def disjunction (lookUp : Bytes → Option Bytes) : Nat → Bool → Step Int
  | 0, _ => complain "expecting primary"
  | fuel + 1, idle => do
    let value ← conjunction lookUp fuel idle
    if ← trySign "||" then
      let other ← disjunction lookUp fuel (idle || value ≠ 0)
      return ofBool (value ≠ 0 || other ≠ 0)
    else return value

/-- An expression with a choice by `?` and `:` at its end or not. -/
def selection (lookUp : Bytes → Option Bytes) : Nat → Bool → Step Int
  | 0, _ => complain "expecting primary"
  | fuel + 1, idle => do
    let value ← disjunction lookUp fuel idle
    if ← trySign "?" then
      let consequence ← expression lookUp fuel (idle || value = 0)
      unless ← trySign ":" do
        complain "expecting ':'"
      let otherwise ← selection lookUp fuel (idle || value ≠ 0)
      return if value ≠ 0 then consequence else otherwise
    else return value

/-- An expression that may assign its value to a variable. -/
def expression (lookUp : Bytes → Option Bytes) : Nat → Bool → Step Int
  | 0, _ => complain "expecting primary"
  | fuel + 1, idle => do
    match (← get).rest with
    | .name name :: .sign sign :: rest =>
      match assignment? sign with
      | none => selection lookUp fuel idle
      | some operation? =>
        modify fun progress => { progress with rest }
        let result ← expression lookUp fuel idle
        if idle then return result
        else
          let value ←
            match operation? with
            | none => pure result
            | some operation => do liftM (apply operation (← valueOf lookUp name) result)
          modify fun progress =>
            { progress with assigned := (name, value) :: progress.assigned }
          return value
    | _ => selection lookUp fuel idle

end

/-- The value of an expression and the assignments it makes, in order; an empty one has none. -/
def evaluate (lookUp : Bytes → Option Bytes) (text : Bytes) :
    Except Fault (Int × List (Bytes × Int)) := do
  let tokens := tokens text.length text
  let (value, progress) ← (expression lookUp (24 * tokens.length + 48) false).run ⟨tokens, []⟩
  if progress.rest.isEmpty then return (value, progress.assigned.reverse)
  else throw (.malformed "expecting EOF")

end ChangelogSql.Shell.Arithmetic
