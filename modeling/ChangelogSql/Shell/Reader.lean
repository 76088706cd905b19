import ChangelogSql.Shell.Script
import ChangelogSql.Text.Ascii
import ChangelogSql.Text.Search

/-!
The letters of a script. What is left of a script is a stack of stretches of
text: the script itself, and on top of it the values of the names that stand for
other words, each until it is used up. The reader counts the lines it has passed
and keeps the documents it has come across.
-/

namespace ChangelogSql.Shell

open Text (ascii)

/-- What a redirection sign says. -/
inductive Sign where
  | file (mode : Mode)
  | same
  | document (stripsTabs : Bool)
  deriving DecidableEq

/-- A token of a script. -/
inductive Token where
  | word (word : Word)
  | reserved (word : String)
  | redirection (descriptor : Nat) (sign : Sign)
  | sign (sign : String)
  | newline
  | endOfFile

instance : Inhabited Token := ⟨.endOfFile⟩

/-- A stretch of text that is read from. -/
structure Stretch where
  rest : Bytes
  /-- The name whose value this is. -/
  name? : Option Bytes
  /-- After it, another word may be a name that stands for others. -/
  endsBlank : Bool

/-- A document whose text comes after the current line. -/
structure PendingDocument where
  number : Nat
  mark : Bytes
  isLiteral : Bool
  stripsTabs : Bool

/-- A place in a script. -/
structure Cursor where
  /-- The innermost first. -/
  stretches : List Stretch
  line : Nat
  /-- The names that stand for other words. -/
  aliases : List (Bytes × Bytes)
  /-- The next word may be such a name, wherever it stands. -/
  expectsName : Bool
  pending : List PendingDocument
  /-- The documents that have been read, by their numbers. -/
  documents : List (Nat × Word)
  nextDocument : Nat
  /-- A token that has been looked at and not taken. -/
  token? : Option Token
  /-- The document that is read. -/
  document? : Option PendingDocument
  /-- The line that ends the document has been passed. -/
  hasMark : Bool

/-- A step that takes something from the front of a script. -/
abbrev Reader := StateT Cursor (Except Complaint)

def lineEnd : UInt8 :=
  0x0A

def singleQuote : UInt8 :=
  0x27

def doubleQuote : UInt8 :=
  0x22

def backquote : UInt8 :=
  0x60

def backslash : UInt8 :=
  0x5C

/-- A byte between words. -/
def isBlank (b : UInt8) : Bool :=
  b = ascii ' ' || b = ascii '\t'

/-- A byte that ends a word unless it is quoted. -/
def isMeta (b : UInt8) : Bool :=
  isBlank b || b = lineEnd || b = ascii ';' || b = ascii '&'
    || b = ascii '|' || b = ascii '<' || b = ascii '>' || b = ascii '(' || b = ascii ')'

/-- A byte that begins a quotation or an expansion. -/
def isOpening (b : UInt8) : Bool :=
  b = singleQuote || b = doubleQuote || b = backquote || b = backslash || b = ascii '$'

/-- A byte that stands for itself in every place of a word. -/
def isOrdinary (b : UInt8) : Bool :=
  !isMeta b && !isOpening b && b ≠ ascii '}'

/-- The words that have a meaning of their own where a command begins. -/
def reservedWords : List String :=
  ["!", "case", "do", "done", "elif", "else", "esac", "fi", "for", "if", "in", "then", "until",
    "while", "\x7b", "\x7d"]

/-- The text of a word that is nothing but text without quotes. -/
def Word.plain? (word : Word) : Option Bytes :=
  match word with
  | [.text false bytes] => some bytes
  | _ => none

namespace Token

/-- A token as it is named in a complaint. -/
def name : Token → String
  | .word _ => "word"
  | .reserved text | .sign text => "\"" ++ text ++ "\""
  | .redirection .. => "redirection"
  | .newline => "newline"
  | .endOfFile => "end of file"

def isSign (token : Token) (text : String) : Bool :=
  match token with
  | .sign other => other = text
  | _ => false

def isReserved (token : Token) (text : String) : Bool :=
  match token with
  | .reserved other => other = text
  | _ => false

/-- A token that ends a list of commands. -/
def isClosing (token : Token) : Bool :=
  match token with
  | .endOfFile => true
  | .sign text => text = ")" || text = ";;"
  | .reserved text =>
    ["do", "done", "elif", "else", "esac", "fi", "then", "\x7d"].contains text
  | _ => false

end Token

namespace Cursor

/-- A cursor at the beginning of a text. -/
def start (text : Bytes) (aliases : List (Bytes × Bytes)) (nextDocument : Nat) : Cursor :=
  ⟨[⟨text, none, false⟩], 1, aliases, false, [], [], nextDocument, none, none, false⟩

/-- The stretches without those on top that are used up, and whether the next word may be a name
because of them. -/
def unused : Bool → List Stretch → Bool × List Stretch
  | expects, stretch :: rest =>
    match stretch.rest, stretch.name? with
    | [], some _ => unused (expects || stretch.endsBlank) rest
    | _, _ => (expects, stretch :: rest)
  | expects, [] => (expects, [])

/-- The cursor at something that can be read, if there is anything. -/
def settle (cursor : Cursor) : Cursor :=
  let (expectsName, stretches) := unused cursor.expectsName cursor.stretches
  { cursor with stretches, expectsName }

/-- What is left of the stretch that is read from. -/
def rest (cursor : Cursor) : Bytes :=
  (cursor.stretches.head?.map Stretch.rest).getD []

/-- What is left of the script itself. -/
def remaining (cursor : Cursor) : Bytes :=
  (cursor.stretches.getLast?.map Stretch.rest).getD []

/-- The end of the script has been seen. -/
def hasEnded (cursor : Cursor) : Bool :=
  match cursor.token? with
  | some .endOfFile => true
  | _ => false

/-- The cursor after some bytes of the stretch that is read from. -/
def drop (count : Nat) (cursor : Cursor) : Cursor :=
  match cursor.stretches with
  | [] => cursor
  | stretch :: others =>
    { cursor with
      stretches := { stretch with rest := stretch.rest.drop count } :: others
      line := cursor.line + (stretch.rest.take count).count lineEnd }

/-- The cursor after lines that are joined by a backslash. -/
def skipJoints : Nat → Cursor → Cursor
  | 0, cursor => cursor
  | count + 1, cursor =>
    let cursor := cursor.settle
    match cursor.rest with
    | 0x5C :: 0x0A :: _ => skipJoints count (cursor.drop 2)
    | _ => cursor

/-- A name whose value is being read. -/
def isInUse (cursor : Cursor) (name : Bytes) : Bool :=
  cursor.stretches.any fun stretch => stretch.name? = some name

end Cursor

namespace Reader

variable {α : Type}

def complain (text : String) : Reader α := do
  throw ⟨(← get).line, "Syntax error: " ++ text⟩

/-- Complains about a token. -/
def unexpected (token : Token) (expected? : Option Token) : Reader α :=
  complain (token.name ++ " unexpected" ++
    match expected? with
    | some expected => " (expecting " ++ expected.name ++ ")"
    | none => "")

/-- The next byte, which is left. There is none behind the mark of a document. -/
def peek : Reader (Option UInt8) := do
  modify Cursor.settle
  let cursor ← get
  return if cursor.hasMark then none else cursor.rest.head?

/-- The next byte behind joined lines, which is left. -/
def peekJoined : Reader (Option UInt8) := do
  modify fun cursor =>
    if cursor.hasMark then cursor else cursor.skipJoints (cursor.rest.length + 1)
  peek

/-- Takes bytes. -/
def advance (count : Nat) : Reader Unit :=
  modify (·.drop count)

/-- Takes the bytes up front that a test accepts. -/
def takeWhile (test : UInt8 → Bool) : Reader Bytes := do
  modify Cursor.settle
  let run := (← get).rest.takeWhile test
  advance run.length
  return run

/-- Begins a line of a document, if one is read: tabs are passed where they do not belong to it, and
so is the line if it is the mark. Lines are not joined right behind such tabs; the answer is what is
taken as it stands there. -/
def beginLine : Reader Bytes := do
  match (← get).document? with
  | none => return []
  | some document =>
    let _ ← peekJoined
    let tabs ← if document.stripsTabs then takeWhile (· = ascii '\t') else pure []
    let cursor ← get
    let rest := cursor.rest
    if rest ≠ [] && rest.takeWhile (· ≠ lineEnd) = document.mark then
      advance (document.mark.length + 1)
      modify fun cursor => { cursor with hasMark := true }
      return []
    else if tabs ≠ [] && rest.take 2 = [0x5C, lineEnd] then
      set { cursor.drop 2 with line := cursor.line }
      return rest.take 2
    else return []

/-- Takes bytes of a name behind joined lines; `count` bounds how often lines are joined in it. -/
def takeName (test : UInt8 → Bool) : Nat → Reader Bytes
  | 0 => return []
  | count + 1 => do
    match ← peekJoined with
    | some b =>
      if test b then
        let run ← takeWhile test
        return run ++ (← takeName test count)
      else return []
    | none => return []

/-- Takes a byte behind joined lines where it comes next, and tells whether it did. -/
def tryByte (b : UInt8) : Reader Bool := do
  if (← peekJoined) = some b then
    advance 1
    return true
  else return false

/-- Puts back a token. -/
def putBack (token : Token) : Reader Unit :=
  modify fun cursor => { cursor with token? := some token }

/-- How many bytes there are at most to be read. -/
def bound : Reader Nat := do
  return Numeral.total ((← get).stretches.map fun stretch => stretch.rest.length) + 1

/-- Runs a reader on another text and goes on here. The names and the documents stay the same. -/
def within (text : Bytes) (line : Nat) (reader : Reader α) : Reader (α × Nat) := fun cursor =>
  let inner : Cursor :=
    { cursor with
      stretches := [⟨text, none, false⟩], line, expectsName := false, pending := []
      token? := none, document? := none }
  match reader.run inner with
  | .error complaint => .error complaint
  | .ok (result, after) =>
    .ok ((result, after.line),
      { cursor with documents := after.documents, nextDocument := after.nextDocument })

end Reader

end ChangelogSql.Shell
