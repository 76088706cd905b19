import ChangelogSql.Utility.Records.Program

/-!
The words of a program for records. Whether a slash begins an expression or
divides hangs on the word in front of it, and lines end only where something can
end.
-/

namespace ChangelogSql.Utility.Records

open Text (ascii)
open Numeral

/-- Words that have a meaning of their own. -/
inductive Keyword where
  | begin
  | finish
  | function
  | if
  | else
  | while
  | for
  | do
  | break
  | continue
  | next
  | nextFile
  | exit
  | return
  | print
  | printf
  | delete
  | in
  | getline
  deriving DecidableEq, Inhabited

/-- The keywords by their spellings. -/
def Keyword.spellings : List (String × Keyword) :=
  [("BEGIN", .begin), ("END", .finish), ("function", .function), ("if", .if), ("else", .else),
    ("while", .while), ("for", .for), ("do", .do), ("break", .break), ("continue", .continue),
    ("next", .next), ("nextfile", .nextFile), ("exit", .exit), ("return", .return),
    ("print", .print), ("printf", .printf), ("delete", .delete), ("in", .in),
    ("getline", .getline)]

/-- A word. -/
inductive Word where
  | real (number : Binary)
  | text (bytes : Bytes)
  | matcher (source : Bytes)
  | name (bytes : Bytes)
  /-- A name with an opening parenthesis right behind it. -/
  | called (bytes : Bytes)
  | builtin (builtin : Builtin)
  | keyword (keyword : Keyword)
  | sign (text : String)
  | lineEnd
  | ended
  deriving DecidableEq, Inhabited

/-- A word with the line that it stands in. -/
structure Lexeme where
  word : Word
  line : Nat
  deriving Inhabited

/-- What is wrong with a program. -/
inductive Problem where
  | wrongWord (text : Bytes)
  /-- A brace is closed that was not opened; the word behind it is shown. -/
  | extraBrace (text : Bytes)
  | missingBrace
  | openText (text : Bytes)
  | openMatcher (text : Bytes)
  | strangeByte (b : UInt8)
  | badMatcher (refusal : Matcher.Refusal) (source : Bytes)
  | notVariable (name : Bytes)
  | notTable (name : Bytes)
  | wrongCount (name : Bytes)
  | tooMany (name : Bytes)
  | undefined (name : Bytes)
  | definedTwice (name : Bytes)
  | outsideLoop (keyword : Bytes)
  | outsideFunction
  | misplacedNext
  | badNumber (text : Bytes)
  deriving DecidableEq

/-- What is wrong, and where. -/
structure Fault where
  line : Nat
  problem : Problem
  deriving DecidableEq

/-- The beginning of a text. -/
def beginning (bytes : Bytes) : Bytes :=
  bytes.take 10 ++ Bytes.ofString " ..."

/-- The text of a problem. -/
def Problem.message : Problem → Bytes
  | .wrongWord text | .extraBrace text => Bytes.ofString "syntax error at or near " ++ text
  | .missingBrace => Bytes.ofString "missing \x7d near end of file"
  | .openText text => Bytes.ofString "runaway string constant " ++ beginning text
  | .openMatcher text => Bytes.ofString "runaway regular expression " ++ beginning text
  | .strangeByte b => Bytes.ofString "unexpected character '" ++ [b, ascii '\'']
  | .badMatcher refusal source =>
    Bytes.ofString ("regular expression compile failed (" ++ refusal.message ++ ")\n") ++ source
  | .notVariable name => Bytes.ofString "illegal reference to array " ++ name
  | .notTable name => Bytes.ofString "illegal reference to variable " ++ name
  | .wrongCount name => Bytes.ofString "wrong number of arguments in call to " ++ name
  | .tooMany name => Bytes.ofString "too many arguments in call to " ++ name
  | .undefined name => Bytes.ofString "function " ++ name ++ Bytes.ofString " never defined"
  | .definedTwice name => Bytes.ofString "redefinition of function " ++ name
  | .outsideLoop word => word ++ Bytes.ofString " statement outside of loop"
  | .outsideFunction => Bytes.ofString "return outside function body"
  | .misplacedNext => Bytes.ofString "improper use of next"
  | .badNumber text => Bytes.ofString "unexpected or strange number " ++ text

/-- The lines that tell of a fault. -/
def Fault.messages (fault : Fault) : List Bytes :=
  let front := Bytes.ofString "line " ++ Text.Ascii.ofNat fault.line ++ Bytes.ofString ": "
  match fault.problem with
  | .extraBrace text =>
    [front ++ Bytes.ofString "extra '\x7d'", front ++ (Problem.wrongWord text).message]
  | problem => [front ++ problem.message]

namespace Word

/-- How a word is shown in a complaint. -/
def shown : Word → Bytes
  | .real number => textOf (Bytes.ofString "%.6g") number
  | .text bytes => ascii '"' :: bytes ++ [ascii '"']
  | .matcher source => ascii '/' :: source ++ [ascii '/']
  | .name bytes | .called bytes => bytes
  | .builtin known => Bytes.ofString known.name
  | .keyword key =>
    Bytes.ofString (((Keyword.spellings.find? fun entry => entry.2 = key).map Prod.fst).getD "")
  | .sign mark => Bytes.ofString mark
  | .lineEnd => Bytes.ofString "end of line"
  | .ended => Bytes.ofString "end of file"

/-- A slash behind the word divides. -/
def endsTerm : Word → Bool
  | .real _ | .text _ | .matcher _ | .name _ | .keyword .getline => true
  | .builtin known => known = .length
  | .sign mark => [")", "]", "$"].contains mark
  | _ => false

/-- Lines can end behind the word without ending anything. -/
def goesOn : Word → Bool
  | .sign mark => ["\x7b", "&&", "||", ",", ";"].contains mark
  | .keyword key => key = .do || key = .else
  | .lineEnd => true
  | _ => false

end Word

/-- The signs, the longer ones first. -/
def signs : List String :=
  ["&&", "||", "==", "!=", "!~", "<=", ">=", ">>", "++", "--", "+=", "-=", "*=", "/=", "%=", "^=",
    "\x7b", "\x7d", "(", ")", "[", "]", ";", ",", "+", "-", "*", "/", "%", "^", "!", "~", "<", ">",
    "?", ":", "=", "$", "|"]

/-- The sign at the beginning of a text, and what follows it. -/
def sign? (bytes : Bytes) : Option (String × Bytes) :=
  signs.findSome? fun text =>
    let sign := Bytes.ofString text
    if sign.isPrefixOf bytes then some (text, bytes.drop sign.length) else none

/-- A text with what its backslashes stand for; a backslash that has no meaning stays. -/
def unescaped : Nat → Bytes → Bytes
  | 0, _ => []
  | _, [] => []
  | fuel + 1, b :: rest =>
    if b = ascii '\\' then
      match Matcher.escape? rest, rest with
      | some (byte, rest), _ => byte :: unescaped fuel rest
      | none, c :: rest => b :: c :: unescaped fuel rest
      | none, [] => [b]
    else b :: unescaped fuel rest

/-- A text up to the quote that ends it, as it is written, with what follows it and how many lines it
goes on to. -/
def quoted : Bytes → Bytes → Nat → Except Bytes (Bytes × Bytes × Nat)
  | 0x22 :: rest, before, lines => .ok (before.reverse, rest, lines)
  | 0x5C :: 0x0A :: rest, before, lines => quoted rest before (lines + 1)
  | 0x5C :: b :: rest, before, lines => quoted rest (b :: 0x5C :: before) lines
  | [], before, _ | 0x0A :: _, before, _ => .error before.reverse
  | b :: rest, before, lines => quoted rest (b :: before) lines

/-- How far an expression is into brackets. -/
inductive Depth where
  | outside
  | opened
  | inside
  | kind
  deriving DecidableEq

/-- How far it is behind one more byte; the bytes before that are turned round. -/
def Depth.after (depth : Depth) (b : UInt8) (before : Bytes) : Depth :=
  let previous? := before.head?
  match depth with
  | .outside => if b = ascii '[' then .opened else .outside
  | .opened => if b = ascii '^' && previous? = some (ascii '[') then .opened else .inside
  | .inside =>
    if b = ascii ']' then .outside
    else if b = ascii ':' && previous? = some (ascii '[') then .kind
    else .inside
  | .kind => if b = ascii ']' && previous? = some (ascii ':') then .inside else .kind

/-- An expression up to the slash that ends it, as it is written but for slashes, with what follows
it. A slash within brackets does not end it. -/
def slashed : Bytes → Bytes → Depth → Except Bytes (Bytes × Bytes)
  | 0x2F :: rest, before, depth =>
    if depth = .outside then .ok (before.reverse, rest)
    else slashed rest (0x2F :: before) (depth.after 0x2F before)
  | 0x5C :: b :: rest, before, depth =>
    let depth := if depth = .opened then .inside else depth
    if b = ascii '/' then slashed rest (b :: before) depth
    else if b = 0x0A then slashed rest before depth
    else slashed rest (b :: 0x5C :: before) depth
  | [], before, _ | 0x0A :: _, before, _ => .error before.reverse
  | b :: rest, before, depth => slashed rest (b :: before) (depth.after b before)

/-- A number in a program: digits with a point and an exponent. -/
def numeral (bytes : Bytes) : Binary × Bytes :=
  match Reading.decimal? .double false bytes with
  | some reading => (reading.number, reading.rest)
  | none => (.zero, bytes.drop 1)

/-- A word without blanks in front of it, where there is one, and what follows it. -/
def word (previous : Word) (line : Nat) (bytes : Bytes) : Except Fault (Word × Bytes × Nat) :=
  match bytes with
  | [] => .ok (.ended, [], 0)
  | b :: rest =>
    let isPoint := b = ascii '.' && rest.head?.any Text.Ascii.isDigit
    if b = ascii '"' then
      match quoted rest [] 0 with
      | .ok (text, rest, lines) => .ok (.text (unescaped text.length text), rest, lines)
      | .error text => .error ⟨line, .openText (b :: text)⟩
    else if Text.Ascii.isDigit b || isPoint then
      let (number, rest) := numeral bytes
      .ok (.real number, rest, 0)
    else if Text.Ascii.isNameStart b then
      let name := bytes.takeWhile Text.Ascii.isNameByte
      let rest := bytes.drop name.length
      match Keyword.spellings.find? fun entry => Bytes.ofString entry.1 = name with
      | some (_, keyword) => .ok (.keyword keyword, rest, 0)
      | none =>
        match Builtin.names.find? fun entry => Bytes.ofString entry.1 = name with
        | some (_, builtin) => .ok (.builtin builtin, rest, 0)
        | none =>
          if rest.head? = some (ascii '(') then .ok (.called name, rest, 0)
          else .ok (.name name, rest, 0)
    else if b = ascii '/' && !previous.endsTerm then
      match slashed rest [] .outside with
      | .ok (source, rest) => .ok (.matcher source, rest, 0)
      | .error text => .error ⟨line, .openMatcher (b :: text)⟩
    else
      match sign? bytes with
      | some (text, rest) => .ok (.sign text, rest, 0)
      | none => .error ⟨line, .strangeByte b⟩

/-- The words of a program. Line ends that end nothing are left out. `fuel` bounds its length. -/
def lexemes : Nat → Bytes → Nat → Word → List Lexeme → Except Fault (List Lexeme)
  | 0, _, line, _, before => .ok (⟨.ended, line + 1⟩ :: before).reverse
  | fuel + 1, bytes, line, previous, before =>
    match bytes with
    | [] => .ok (⟨.ended, line + 1⟩ :: before).reverse
    | 0x5C :: 0x0A :: rest => lexemes fuel rest (line + 1) previous before
    | 0x5C :: 0x0D :: 0x0A :: rest => lexemes fuel rest (line + 1) previous before
    | 0x0A :: rest =>
      if previous.goesOn then lexemes fuel rest (line + 1) previous before
      else lexemes fuel rest (line + 1) .lineEnd (⟨.lineEnd, line⟩ :: before)
    | 0x23 :: rest => lexemes fuel (rest.dropWhile (· ≠ 0x0A)) line previous before
    | b :: rest =>
      if Text.Ascii.isSpace b then lexemes fuel rest line previous before
      else
        match word previous line (b :: rest) with
        | .error fault => .error fault
        | .ok (found, rest, lines) =>
          lexemes fuel rest (line + lines) found (⟨found, line⟩ :: before)

end ChangelogSql.Utility.Records
