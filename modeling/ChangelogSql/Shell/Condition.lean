import ChangelogSql.Files.Facts
import ChangelogSql.Shell.Arithmetic

/-!
Conditions on files, texts and numbers, as `test` and `[` take them. A word that
could be an operator is one only where enough words follow, so that most texts
can stand as operands.
-/

namespace ChangelogSql.Shell.Condition

open Files

/-- What an operator is. -/
inductive Operator where
  | unary (letter : Char)
  | binary (sign : String)
  | not
  | and
  | or
  | opened
  | closed
  deriving DecidableEq

/-- The letters of the operators on one operand. -/
def letters : List Char :=
  ['r', 'w', 'x', 'e', 'f', 'd', 'c', 'b', 'p', 'u', 'g', 'k', 's', 't', 'z', 'n', 'h', 'O', 'G',
    'L', 'S']

/-- The operators on two operands. -/
def signs : List String :=
  ["=", "!=", "<", ">", "-eq", "-ne", "-ge", "-gt", "-le", "-lt", "-nt", "-ot", "-ef"]

/-- The operator that a word can be. -/
def operator? (word : Bytes) : Option Operator :=
  let isWord (text : String) : Bool := word = Bytes.ofString text
  if isWord "!" then some .not
  else if isWord "-a" then some .and
  else if isWord "-o" then some .or
  else if isWord "(" then some .opened
  else if isWord ")" then some .closed
  else
    match signs.find? isWord with
    | some sign => some (.binary sign)
    | none =>
      (letters.find? fun letter => isWord ("-" ++ letter.toString)).map .unary

def isBinary (word : Bytes) : Bool :=
  match operator? word with
  | some (.binary _) => true
  | _ => false

/-- What the first of some words is. -/
inductive Lexeme where
  | operand
  | operator (operator : Operator)
  | ended
  deriving DecidableEq

/-- What the first of some words is: an operator on one operand must be followed by one, and a
parenthesis by something. -/
def lexeme : List Bytes → Lexeme
  | [] => .ended
  | word :: rest =>
    match operator? word with
    | none => .operand
    | some (.unary letter) =>
      match rest with
      | [] => .operand
      | [_] => .operator (.unary letter)
      | next :: _ :: _ => if isBinary next then .operand else .operator (.unary letter)
    | some .opened => if rest = [] then .operand else .operator .opened
    | some other => .operator other

/-- A condition that is being decided: the words from the one that is looked at. A condition that
cannot be decided gives what is wrong with it. -/
abbrev Step := StateT (List Bytes) (Except Bytes)

/-- Complains, with the word that is to blame in front. -/
def refuse {α : Type} (word : Bytes) (text : String) : Step α :=
  throw (if word = [] then Bytes.ofString text else word ++ Bytes.ofString (": " ++ text))

/-- What stands some words further on. -/
def ahead (count : Nat) : Step Lexeme := do
  return lexeme ((← get).drop count)

/-- Goes on some words. -/
def advance (count : Nat) : Step Unit :=
  modify (·.drop count)

/-- The word that is looked at. -/
def here : Step Bytes := do
  return (← get).head?.getD []

/-- The number that an operand writes. -/
def number (text : Bytes) : Step Int := do
  let trimmed := text.dropWhile Text.Ascii.isSpace
  let isNegative := trimmed.head? = some 0x2D
  let digits := if isNegative || trimmed.head? = some 0x2B then trimmed.drop 1 else trimmed
  let run := digits.takeWhile Text.Ascii.isDigit
  let value : Int := Text.Ascii.value 10 run
  let value := if isNegative then -value else value
  if run ≠ [] && (digits.drop run.length).all Text.Ascii.isSpace && Arithmetic.fits value then
    return value
  else throw (Bytes.ofString "Illegal number: " ++ text)

/-- Something at the end of a path has a property. -/
def isSo (view : View) (follow : Bool) (path : Bytes) (test : Facts → Bool) : Bool :=
  match view.facts follow ⟨path⟩ with
  | .ok facts => test facts
  | .error _ => false

/-- What an operator on one operand says of it. -/
def unary (view : View) (letter : Char) (operand : Bytes) : Step Bool := do
  let fact (test : Facts → Bool) : Bool := isSo view true operand test
  let bit (bit : Nat) : Bool := fact fun facts => facts.mode &&& bit ≠ 0
  match letter with
  | 'n' => return operand ≠ []
  | 'z' => return operand = []
  | 't' => do
    let _ ← number operand
    return false
  | 'f' => return fact (·.kind = .file)
  | 'd' => return fact (·.kind = .directory)
  | 'c' => return fact (·.kind = .device)
  | 'p' => return fact (·.kind = .queue)
  | 'b' | 'S' => return false
  | 'h' | 'L' => return isSo view false operand (·.kind = .link)
  | 's' => return fact (·.size ≠ 0)
  | 'u' => return bit 0o4000
  | 'g' => return bit 0o2000
  | 'k' => return bit 0o1000
  | 'x' => return fact fun facts => facts.kind = .directory || isRunnable facts.mode
  | _ => return fact fun _ => true

/-- What an operator on two operands says of them. -/
def binary (view : View) (sign : String) (left right : Bytes) : Step Bool := do
  let compare (holds : Int → Int → Bool) : Step Bool := do
    return holds (← number left) (← number right)
  let facts? (path : Bytes) : Option Facts := (view.facts true ⟨path⟩).toOption
  let both (holds : Facts → Facts → Bool) : Bool :=
    match facts? left, facts? right with
    | some facts, some others => holds facts others
    | _, _ => false
  match sign with
  | "=" => return left = right
  | "!=" => return left ≠ right
  | "<" => return left < right
  | ">" => return right < left
  | "-eq" => compare fun a b => a = b
  | "-ne" => compare fun a b => a ≠ b
  | "-lt" => compare fun a b => a < b
  | "-le" => compare fun a b => a ≤ b
  | "-gt" => compare fun a b => b < a
  | "-ge" => compare fun a b => b ≤ a
  | "-nt" => return both fun facts others => others.modified < facts.modified
  | "-ot" => return both fun facts others => facts.modified < others.modified
  | _ => return both fun facts others => facts.identity = others.identity

mutual

/-- Conditions joined by `-o`, all of which are decided. -/
def disjunction (view : View) : Nat → Lexeme → Step Bool
  | 0, _ => return false
  | fuel + 1, lexeme => do
    let holds ← conjunction view fuel lexeme
    if (← ahead 1) = .operator .or then
      advance 2
      let other ← disjunction view fuel (← ahead 0)
      return holds || other
    else return holds

/-- Conditions joined by `-a`, all of which are decided. -/
def conjunction (view : View) : Nat → Lexeme → Step Bool
  | 0, _ => return false
  | fuel + 1, lexeme => do
    let holds ← negation view fuel lexeme
    if (← ahead 1) = .operator .and then
      advance 2
      let other ← conjunction view fuel (← ahead 0)
      return holds && other
    else return holds

/-- A condition with `!` in front or not. -/
def negation (view : View) : Nat → Lexeme → Step Bool
  | 0, _ => return false
  | fuel + 1, lexeme => do
    if lexeme = .operator .not then
      let next ← ahead 1
      unless next = .ended do
        advance 1
      return !(← negation view fuel next)
    else primary view fuel lexeme

/-- A condition without signs around it, or one in parentheses. -/
def primary (view : View) : Nat → Lexeme → Step Bool
  | 0, _ => return false
  | fuel + 1, lexeme => do
    match lexeme with
    | .ended => return false
    | .operator .opened =>
      advance 1
      let next ← ahead 0
      if next = .operator .closed then return false
      else
        let holds ← disjunction view fuel next
        advance 1
        unless (← ahead 0) = .operator .closed do
          refuse [] "closing paren expected"
        return holds
    | .operator (.unary letter) =>
      let sign ← here
      advance 1
      match (← get).head? with
      | none => refuse sign "argument expected"
      | some operand => unary view letter operand
    | _ =>
      match ← ahead 1 with
      | .operator (.binary sign) =>
        let left ← here
        advance 2
        match (← get).head? with
        | none => refuse (Bytes.ofString sign) "argument expected"
        | some right => binary view sign left right
      | _ => return (← here) ≠ []

end

/-- Decides a condition and sees to it that no words are left. -/
def decided (view : View) (first : Lexeme) (words : List Bytes) : Except Bytes Bool := do
  let (holds, rest) ← (disjunction view (4 * words.length + 8) first).run words
  match rest with
  | word :: _ :: _ => throw (word ++ Bytes.ofString ": unexpected operator")
  | _ => return holds

/-- A condition. Up to four words are looked at as a whole first. -/
def holds (view : View) : List Bytes → Except Bytes Bool
  | [] => .ok false
  | word :: rest =>
    let words := word :: rest
    let isGrouped := word = Bytes.ofString "(" && words.getLast? = some (Bytes.ofString ")")
    let isSmall := words.length = 3 || words.length = 4
    if words.length = 3 && rest.head?.any isBinary then decided view .operand words
    else if isSmall && isGrouped then decided view (lexeme rest.dropLast) rest.dropLast
    else if isSmall && word = Bytes.ofString "!" then (holds view rest).map (!·)
    else decided view (lexeme words) words

end ChangelogSql.Shell.Condition
