import ChangelogSql.Files.Facts
import ChangelogSql.Utility.Input
import ChangelogSql.Utility.Matching
import ChangelogSql.Utility.Option

/-!
The programs that answer with their exit codes: one that decides conditions on
files, texts and numbers, and one that evaluates expressions.
-/

namespace ChangelogSql.Utility.Decision

open Text (ascii)
open Files Kernel
open Tool

/-- Words of which some have been read. -/
structure Cursor where
  words : Array Bytes
  place : Nat
  view : View

/-- A step of reading words; what is refused is told by a complaint. -/
abbrev Reader (α : Type) := ExceptT Bytes (StateM Cursor) α

/-- A word in quotes in a complaint. -/
def marked (word : Bytes) : Bytes :=
  Quotation.cited word

/-- The word so many places ahead. -/
def ahead? (count : Nat) : Reader (Option Bytes) := do
  let cursor ← get
  return cursor.words[cursor.place + count]?

/-- How many words are left. -/
def left : Reader Nat := do
  let cursor ← get
  return cursor.words.size - cursor.place

def advance (count : Nat) : Reader Unit :=
  modify fun cursor => { cursor with place := cursor.place + count }

/-- A word is missing. -/
def missing {α : Type} : Reader α := do
  let cursor ← get
  let last := (cursor.words[cursor.words.size - 1]?).getD []
  throw (Bytes.ofString "missing argument after " ++ marked last)

/-- The next word, which must be there. -/
def next : Reader Bytes := do
  match ← ahead? 0 with
  | some word =>
    advance 1
    return word
  | none => missing

def isWord (text : String) (word? : Option Bytes) : Bool :=
  word? = some (Bytes.ofString text)

/-- The signs between two operands. -/
def binarySigns : List String :=
  ["=", "==", "!=", "-eq", "-ne", "-lt", "-le", "-gt", "-ge", "-nt", "-ot", "-ef"]

def isBinary (word? : Option Bytes) : Bool :=
  word?.any fun word => binarySigns.any fun sign => word = Bytes.ofString sign

/-- The letters of the signs in front of one operand. -/
def unaryLetters : Bytes :=
  Bytes.ofString "bcdefgGhkLnNOprsStuwxz"

/-- The number that a word is. -/
def number (word : Bytes) : Reader Int := do
  let isBlank (b : UInt8) : Bool := b = ascii ' ' || b = ascii '\t'
  let text := (((word.dropWhile isBlank).reverse).dropWhile isBlank).reverse
  match Text.Ascii.integer? text with
  | some number => return number
  | none => throw (Bytes.ofString "invalid integer " ++ marked word)

/-- Something is true of what a path leads to. -/
def isSo (follow : Bool) (path : Bytes) (test : Facts → Bool) : Reader Bool := do
  return ((← get).view.facts follow ⟨path⟩).toOption.any test

/-- A sign and its operand. -/
def unary : Reader Bool := do
  let sign ← next
  let letter := (sign.drop 1).headD 0
  if !unaryLetters.contains letter then
    throw (marked sign ++ Bytes.ofString ": unary operator expected")
  let operand ← next
  match Char.ofNat letter.toNat with
  | 'n' => return operand ≠ []
  | 'z' => return operand = []
  | 'e' | 'r' | 'w' | 'O' | 'G' => isSo true operand fun _ => true
  | 'f' => isSo true operand (·.kind = .file)
  | 'd' => isSo true operand (·.kind = .directory)
  | 'c' => isSo true operand (·.kind = .device)
  | 'p' => isSo true operand (·.kind = .queue)
  | 's' => isSo true operand fun facts => 0 < facts.size
  | 'x' => isSo true operand fun facts => facts.kind = .directory || isRunnable facts.mode
  | 'u' => isSo true operand fun facts => facts.mode &&& 0o4000 ≠ 0
  | 'g' => isSo true operand fun facts => facts.mode &&& 0o2000 ≠ 0
  | 'k' => isSo true operand fun facts => facts.mode &&& 0o1000 ≠ 0
  | 'h' | 'L' => isSo false operand (·.kind = .link)
  | 't' =>
    let _ ← number operand
    return false
  | _ => return false

/-- The number that an operand is, or the length of the one behind it. -/
def operandNumber : Reader Int := do
  if isWord "-l" (← ahead? 0) && (← left) ≠ 1 then
    advance 1
    return ((← next).length : Nat)
  else number (← next)

/-- Two operands with a sign between them. -/
def binary : Reader Bool := do
  let start := (← get).place
  let skipsFirst := isWord "-l" (← ahead? 0) && isBinary (← ahead? 2)
  let first ← if skipsFirst then (do advance 1; next) else next
  let sign ← next
  let numeric (test : Int → Int → Bool) : Reader Bool := do
    modify ({ · with place := start })
    let left ← if skipsFirst then operandNumber else number (← next)
    advance 1
    let right ←
      if isWord "-l" (← ahead? 0) && (← ahead? 1).isSome then operandNumber else number (← next)
    return test left right
  let facts (path : Bytes) : Reader (Option Facts) := do
    return ((← get).view.facts true ⟨path⟩).toOption
  match Bytes.shown sign with
  | "=" | "==" => return first = (← next)
  | "!=" => return first ≠ (← next)
  | "-eq" => numeric (· = ·)
  | "-ne" => numeric (· ≠ ·)
  | "-lt" => numeric (· < ·)
  | "-le" => numeric (· ≤ ·)
  | "-gt" => numeric (· > ·)
  | "-ge" => numeric (· ≥ ·)
  | "-nt" =>
    let second ← next
    match ← facts first, ← facts second with
    | some here, some there => return there.modified < here.modified
    | some _, none => return true
    | none, _ => return false
  | "-ot" =>
    let second ← next
    match ← facts first, ← facts second with
    | some here, some there => return here.modified < there.modified
    | none, some _ => return true
    | _, none => return false
  | _ =>
    let second ← next
    match ← facts first, ← facts second with
    | some here, some there => return here.identity = there.identity
    | _, _ => return false

/-- One word, which must not be empty. -/
def one : Reader Bool := do
  return (← next) ≠ []

/-- A condition of two words. -/
def two : Reader Bool := do
  match ← ahead? 0 with
  | some [0x21] =>
    advance 1
    return !(← one)
  | some [0x2D, _] => unary
  | _ =>
    advance 2
    missing

mutual

/-- A condition in parentheses, on one or two operands, or a text that must not be empty. -/
def term : Nat → Reader Bool
  | 0 => missing
  | fuel + 1 => do
    match ← ahead? 0 with
    | none => missing
    | some word =>
      if word = [ascii '!'] then
        advance 1
        if (← left) = 0 then missing
        return !(← term fuel)
      else if word = [ascii '('] then
        advance 1
        if (← left) = 0 then missing
        let cursor ← get
        let room := cursor.words.size - cursor.place
        let inner := (List.range room).find? fun count =>
          1 ≤ count && cursor.words[cursor.place + count]? = some [ascii ')']
        let count :=
          match inner with
          | some count => if 4 ≤ count then room else count
          | none => if 4 ≤ room then room else max 1 room
        let value ← posix fuel count
        match ← ahead? 0 with
        | none => throw (Bytes.ofString "')' expected")
        | some [0x29] =>
          advance 1
          return value
        | some other => throw (Bytes.ofString "')' expected, found " ++ marked other)
      else if 4 ≤ (← left) && word = Bytes.ofString "-l" && isBinary (← ahead? 2) then binary
      else if 3 ≤ (← left) && isBinary (← ahead? 1) then binary
      else if word.length = 2 && word.head? = some (ascii '-') then unary
      else
        advance 1
        return word ≠ []

/-- Conditions that must all be true. -/
def conjunction : Nat → Reader Bool
  | 0 => missing
  | fuel + 1 => do
    let value ← term fuel
    if isWord "-a" (← ahead? 0) then
      advance 1
      let rest ← conjunction fuel
      return value && rest
    else return value

/-- Conditions of which one must be true. -/
def disjunction : Nat → Reader Bool
  | 0 => missing
  | fuel + 1 => do
    let value ← conjunction fuel
    if isWord "-o" (← ahead? 0) then
      advance 1
      let rest ← disjunction fuel
      return value || rest
    else return value

/-- A condition of three words. -/
def three : Nat → Reader Bool
  | 0 => missing
  | fuel + 1 => do
    let second? ← ahead? 1
    if isBinary second? then binary
    else if isWord "!" (← ahead? 0) then
      advance 1
      return !(← two)
    else if isWord "(" (← ahead? 0) && isWord ")" (← ahead? 2) then
      advance 1
      let value ← one
      advance 1
      return value
    else if isWord "-a" second? || isWord "-o" second? then disjunction fuel
    else throw (marked (second?.getD []) ++ Bytes.ofString ": binary operator expected")

/-- A condition of so many words; few words have fixed meanings. -/
def posix : Nat → Nat → Reader Bool
  | 0, _ => missing
  | fuel + 1, count => do
    match count with
    | 1 => one
    | 2 => two
    | 3 => three fuel
    | 4 =>
      if isWord "!" (← ahead? 0) then
        advance 1
        return !(← three fuel)
      else if isWord "(" (← ahead? 0) && isWord ")" (← ahead? 3) then
        advance 1
        let value ← two
        advance 1
        return value
      else disjunction fuel
    | _ => disjunction fuel

end

/-- A condition is true, or it cannot be understood. -/
def decided (view : View) (words : List Bytes) : Except Bytes Bool :=
  if words.isEmpty then .ok false
  else
    let whole : Reader Bool := do
      let value ← posix (4 * words.length + 8) words.length
      match ← ahead? 0 with
      | none => return value
      | some word => throw (Bytes.ofString "extra argument " ++ marked word)
    (whole.run ⟨words.toArray, 0, view⟩).1

/-- Decides a condition. -/
def test (inBrackets : Bool) (arguments : List Bytes) : Tool Unit := do
  if inBrackets && arguments.getLast? ≠ some [ascii ']'] then
    failWith 2 (Bytes.ofString "missing ']'")
  let words := if inBrackets then arguments.dropLast else arguments
  match decided (← view) words with
  | .ok value => setCode (if value then 0 else 1)
  | .error complaint => failWith 2 complaint

/-- Words of which some have been read, and the last of those. -/
structure Formula where
  rest : List Bytes
  last : Bytes

/-- A step of evaluating an expression. -/
abbrev Evaluation (α : Type) := ExceptT Bytes (StateM Formula) α

namespace Evaluation

def syntaxFault {α : Type} (words : String) (word : Bytes) : Evaluation α :=
  throw (Bytes.ofString ("syntax error: " ++ words ++ " ") ++ marked word)

/-- The word that comes next. -/
def peek : Evaluation (Option Bytes) := do
  return (← get).rest.head?

/-- The word that comes next, which must be there. -/
def take : Evaluation Bytes := do
  let formula ← get
  match formula.rest with
  | [] => syntaxFault "missing argument after" formula.last
  | word :: rest =>
    set (Formula.mk rest word)
    return word

/-- Takes the next word if it is one of some. -/
def takeOne? (signs : List String) : Evaluation (Option String) := do
  match ← peek with
  | none => return none
  | some word =>
    match signs.find? fun sign => Bytes.ofString sign = word with
    | none => return none
    | some sign =>
      let _ ← take
      return some sign

/-- A value that counts as false. -/
def isNull (value : Bytes) : Bool :=
  let digits := if value.head? = some (ascii '-') then value.drop 1 else value
  value = [] || (digits ≠ [] && digits.all (· = ascii '0'))

/-- The number that a value is. -/
def number? (value : Bytes) : Option Int :=
  if value.head? = some (ascii '+') then none else Text.Ascii.integer? value

/-- The number that a value must be. -/
def number (value : Bytes) : Evaluation Int := do
  match number? value with
  | some number => return number
  | none => throw (Bytes.ofString "non-integer argument")

/-- What matches a pattern at the beginning of a text: a part of it where the pattern has a group, or
else how long it is. -/
def matching (text pattern : Bytes) : Evaluation Bytes := do
  match Expression.compile Expression.basic false false pattern with
  | .error fault => throw (Bytes.ofString fault.message)
  | .ok program =>
    match program.matchAt ⟨text.toArray⟩ 0 with
    | none => return if 0 < program.groups then [] else [ascii '0']
    | some found =>
      if 0 < program.groups then
        match (found.groups[1]?).bind id with
        | some (start, stop) => return (text.take stop).drop start
        | none => return []
      else return Text.Ascii.ofNat found.stop

/-- The levels of signs between two operands, from those that bind least on. -/
def levels : List (List String) :=
  [["|"], ["&"], ["<", "<=", "=", "==", "!=", ">=", ">"], ["+", "-"], ["*", "/", "%"], [":"]]

/-- The order of two values: as numbers where both are some. -/
def compared (left right : Bytes) : Ordering :=
  match number? left, number? right with
  | some a, some b => compare a b
  | _, _ => if left = right then .eq else if left < right then .lt else .gt

/-- What a sign makes of two values. -/
def apply (sign : String) (left right : Bytes) : Evaluation Bytes := do
  let truth (value : Bool) : Bytes := [if value then ascii '1' else ascii '0']
  let order := compared left right
  match sign with
  | "|" => return if !isNull left then left else if isNull right then [ascii '0'] else right
  | "&" => return if isNull left || isNull right then [ascii '0'] else left
  | "<" => return truth (order = .lt)
  | "<=" => return truth (order ≠ .gt)
  | "=" | "==" => return truth (order = .eq)
  | "!=" => return truth (order ≠ .eq)
  | ">=" => return truth (order ≠ .lt)
  | ">" => return truth (order = .gt)
  | ":" => matching left right
  | _ =>
    let a ← number left
    let b ← number right
    if (sign = "/" || sign = "%") && b = 0 then throw (Bytes.ofString "division by zero")
    let value : Int :=
      match sign with
      | "+" => a + b
      | "-" => a - b
      | "*" => a * b
      | "/" => a.tdiv b
      | _ => a.tmod b
    return Text.Ascii.ofInt value

mutual

/-- A word, an expression in parentheses, or a word that says what is done with those behind it. -/
def operand : Nat → Evaluation Bytes
  | 0 => throw (Bytes.ofString "syntax error")
  | fuel + 1 => do
    let word ← take
    match Bytes.shown word with
    | "+" => take
    | "(" =>
      let value ← joined fuel levels
      match ← peek with
      | some [0x29] =>
        let _ ← take
        return value
      | some other => syntaxFault "expecting ')' instead of" other
      | none => syntaxFault "expecting ')' after" (← get).last
    | ")" => syntaxFault "unexpected" word
    | "length" => return Text.Ascii.ofNat (← operand fuel).length
    | "match" =>
      let text ← operand fuel
      matching text (← operand fuel)
    | "index" =>
      let text ← operand fuel
      let signs ← operand fuel
      let before := (text.takeWhile fun b => !signs.contains b).length
      return Text.Ascii.ofNat (if before = text.length then 0 else before + 1)
    | "substr" =>
      let text ← operand fuel
      let start := number? (← operand fuel)
      let count := number? (← operand fuel)
      match start, count with
      | some start, some count =>
        if start ≤ 0 || count ≤ 0 then return []
        else return (text.drop (start.toNat - 1)).take count.toNat
      | _, _ => return []
    | _ => return word

/-- Values with the signs of one level between them, and of those that bind more. -/
def joined : Nat → List (List String) → Evaluation Bytes
  | 0, _ => throw (Bytes.ofString "syntax error")
  | fuel + 1, [] => operand fuel
  | fuel + 1, signs :: deeper => do
    let first ← joined fuel deeper
    joinedFrom fuel signs deeper first

def joinedFrom : Nat → List String → List (List String) → Bytes → Evaluation Bytes
  | 0, _, _, value => return value
  | fuel + 1, signs, deeper, value => do
    match ← takeOne? signs with
    | none => return value
    | some sign =>
      let next ← joined fuel deeper
      joinedFrom fuel signs deeper (← apply sign value next)

end

end Evaluation

/-- Evaluates an expression. -/
def evaluate (arguments : List Bytes) : Tool Unit := do
  whenUnheard fun reason => (3, ["write error: " ++ reason])
  let words := if arguments.head? = some (Bytes.ofString "--") then arguments.drop 1 else arguments
  if words.isEmpty then
    misuse 2 (Bytes.ofString "missing operand")
  let whole : Evaluation Bytes := do
    let value ← Evaluation.joined (16 * words.length + 32) Evaluation.levels
    match ← Evaluation.peek with
    | none => return value
    | some word => Evaluation.syntaxFault "unexpected argument" word
  match (whole.run ⟨words, []⟩).1 with
  | .error complaint => failWith 2 complaint
  | .ok value =>
    putLine value
    setCode (if Evaluation.isNull value then 1 else 0)

end ChangelogSql.Utility.Decision
