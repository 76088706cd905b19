import ChangelogSql.Shell.Reader

/-!
From the text of a script to its tree. A script is read line by line, because
what one line does can change how the next one is read. A word is read together
with everything that is nested in it.
-/

namespace ChangelogSql.Shell.Grammar

open Text (ascii)
open Reader

/-- What quotes, blanks and backslashes mean where parts of a word are read. -/
inductive Setting where
  | bare
  | quoted
  /-- A text that is the input of a command. -/
  | document
  deriving DecidableEq

/-- What ends the parts of a word. -/
inductive Ending where
  /-- A byte that cannot be in a word. -/
  | word
  /-- The closing brace of a parameter. -/
  | brace
  /-- A double quote. -/
  | quote
  /-- The end of the text. -/
  | text
  deriving DecidableEq

/-- Where the parts of a word stand. -/
structure Place where
  setting : Setting
  ending : Ending
  /-- Somewhere around are the braces of a parameter. -/
  isNested : Bool
  /-- The word is the mark of a document, in which nothing is expanded. -/
  isMark : Bool

/-- What a token is taken for. -/
structure Expecting where
  /-- Line ends are passed over. -/
  lines : Bool
  /-- Reserved words are told from others. -/
  reserved : Bool
  /-- Names may stand for other words. -/
  names : Bool

namespace Expecting

def word : Expecting := ⟨false, false, false⟩

def argument : Expecting := ⟨false, false, true⟩

def command : Expecting := ⟨false, true, true⟩

def clause : Expecting := ⟨true, true, true⟩

def branch : Expecting := ⟨true, true, false⟩

end Expecting

/-- The parameter that is written with a single byte. -/
def specialParameter? (b : UInt8) : Option Parameter :=
  if Text.Ascii.isDigit b then some (.argument (Text.Ascii.value 10 [b]))
  else if b = ascii '@' then some .each
  else if b = ascii '*' then some .all
  else if b = ascii '#' then some .count
  else if b = ascii '?' then some .status
  else if b = ascii '$' then some .process
  else if b = ascii '!' then some .background
  else if b = ascii '-' then some .options
  else none

/-- What a missing value is replaced by. -/
def fallback? (sign : UInt8) : Option Fallback :=
  if sign = ascii '-' then some .use
  else if sign = ascii '=' then some .assign
  else if sign = ascii '?' then some .complain
  else none

/-- Adds text to parts of which the last comes first. -/
def addText (quoted : Bool) (bytes : Bytes) (parts : List Part) : List Part :=
  match parts with
  | .text before old :: rest =>
    if before = quoted then .text quoted (old ++ bytes) :: rest else .text quoted bytes :: parts
  | _ => .text quoted bytes :: parts

/-- What a quotation adds to a word. All arguments alone are fields by themselves. -/
def quotation : List Part → List Part
  | [.parameter true .each .value] => [.parameter true .each .value]
  | parts => .mark :: parts

/-- The bytes of a word without its quotes. -/
def unquoted : List Part → Bytes
  | [] => []
  | .text _ bytes :: rest => bytes ++ unquoted rest
  | _ :: rest => unquoted rest

/-- The name and the value of a word that is an assignment. -/
def assignment? (word : Word) : Option (Bytes × Word) :=
  match word with
  | .text false bytes :: rest =>
    let name := bytes.takeWhile Text.Ascii.isNameByte
    match bytes.drop name.length with
    | 0x3D :: value =>
      if Text.Ascii.isName name then
        some (name, if value = [] then rest else .text false value :: rest)
      else none
    | _ => none
  | _ => none

/-- The commands whose names cannot be given to others. -/
def specialCommands : List String :=
  [".", ":", "break", "continue", "eval", "exec", "exit", "export", "readonly", "return", "set",
    "shift", "times", "trap", "unset"]

/-- Complains that the text ends where parts of a word are not complete. -/
def cutShort (place : Place) (parts : List Part) : Reader (List Part) := do
  match place.ending with
  | .word | .text => return parts.reverse
  | .brace | .quote =>
    if place.setting = .quoted && (← get).document?.isNone then complain "Unterminated quoted string"
    else complain "Missing '\x7d'"

/-- The parts of a word that are ordinary text, where some come next. -/
def plainRun (place : Place) : Reader Bytes :=
  match place.setting with
  | .bare => takeWhile isOrdinary
  | .quoted | .document =>
    takeWhile fun b => !isOpening b && b ≠ ascii '}' && b ≠ lineEnd

/-- The lines of a text up to one that is `mark`, which is taken too: the text before it, and how
many bytes are taken. -/
def documentLines (mark : Bytes) (stripsTabs : Bool) : Nat → Bytes → Bytes × Nat
  | 0, _ => ([], 0)
  | fuel + 1, text =>
    if text = [] then ([], 0)
    else
      let line := text.takeWhile (· ≠ lineEnd)
      let hasEnd := line.length < text.length
      let taken := if hasEnd then line.length + 1 else line.length
      let shown := if stripsTabs then line.dropWhile (· = ascii '\t') else line
      if shown = mark then ([], taken)
      else
        let (rest, count) := documentLines mark stripsTabs fuel (text.drop taken)
        (shown ++ (if hasEnd then [lineEnd] else []) ++ rest, taken + count)

/-- A command that is not waited for. -/
def inBackground : Command → Command
  | .pipeline commands _ => .pipeline commands true
  | .redirected line command redirections => .background line command redirections
  | .simple line assignments words redirections =>
    .background line (.simple line assignments words redirections) []
  | command => .background 0 command []

mutual

/-- The parts of a word up to where its place ends; `parts` have been read, the last first. -/
def readParts : Nat → Place → List Part → Reader (List Part)
  | 0, _, parts => return parts.reverse
  | fuel + 1, place, parts => do
    let quoted := place.setting ≠ .bare
    match ← peekJoined with
    | none => cutShort place parts
    | some b =>
      if b = backslash then
        advance 1
        match ← peek with
        | none => return (addText true [backslash] parts).reverse
        | some next =>
          advance 1
          let drops := !quoted || next = backslash || next = backquote || next = ascii '$'
            || (next = doubleQuote && !(place.setting = .document && !place.isNested))
            || (next = ascii '}' && place.isNested)
          let bytes := if drops then [next] else [backslash, next]
          readParts fuel place (addText true bytes parts)
      else if b = ascii '$' then
        advance 1
        if place.isMark then readParts fuel place (addText quoted [b] parts)
        else
          let part ← readDollar fuel quoted
          match part with
          | .text _ bytes => readParts fuel place (addText quoted bytes parts)
          | part => readParts fuel place (part :: parts)
      else if b = backquote then
        advance 1
        if place.isMark then readParts fuel place (addText quoted [b] parts)
        else readParts fuel place ((← readBackquoted fuel quoted) :: parts)
      else if b = doubleQuote && place.setting = .document && !place.isNested then
        advance 1
        readParts fuel place (addText true [b] parts)
      else if b = doubleQuote then
        advance 1
        if place.ending = .quote then return parts.reverse
        else
          let setting := if quoted then place.setting else .quoted
          let inner ← readParts fuel { place with setting, ending := .quote } []
          readParts fuel place ((quotation inner).reverse ++ parts)
      else if b = singleQuote && !quoted then
        advance 1
        let text ← takeWhile (· ≠ singleQuote)
        if (← peek).isNone then
          complain "Unterminated quoted string"
        advance 1
        let parts := .mark :: parts
        readParts fuel place (if text = [] then parts else addText true text parts)
      else if b = ascii '}' && place.ending = .brace then return parts.reverse
      else if place.setting = .bare && place.ending = .word && isMeta b then return parts.reverse
      else
        match ← plainRun place with
        | [] =>
          advance 1
          let begun ← if b = lineEnd then beginLine else pure []
          readParts fuel place (addText quoted (b :: begun) parts)
        | run => readParts fuel place (addText quoted run parts)

/-- What follows a dollar sign. -/
def readDollar : Nat → Bool → Reader Part
  | 0, quoted => return .text quoted [ascii '$']
  | fuel + 1, quoted => do
    match ← peekJoined with
    | none => return .text quoted [ascii '$']
    | some b =>
      if b = ascii '(' then
        advance 1
        if ← tryByte (ascii '(') then
          return .arithmetic quoted (← readArithmetic fuel 0 [])
        else
          -- Texts of documents that are still to come are behind the commands; those of documents
          -- inside them have to stand inside as well.
          let before ← get
          set { before with pending := [], document? := none }
          let command? ← readList fuel true
          let token ← readToken fuel .word
          unless token.isSign ")" do
            unexpected token (some (.sign ")"))
          modify fun cursor =>
            { cursor with pending := before.pending, document? := before.document? }
          return .output quoted command?
      else if b = ascii '{' then
        advance 1
        readBraced fuel quoted
      else if Text.Ascii.isNameStart b then
        return .parameter quoted (.variable (← takeName Text.Ascii.isNameByte (← bound))) .value
      else
        match specialParameter? b with
        | some parameter =>
          advance 1
          return .parameter quoted parameter .value
        | none => return .text quoted [ascii '$']

/-- The parts of an arithmetic expression, below `depth` of its own parentheses. -/
def readArithmetic : Nat → Nat → List Part → Reader (List Part)
  | 0, _, parts => return parts.reverse
  | fuel + 1, depth, parts => do
    match ← peekJoined with
    | none => complain "Missing '))'"
    | some b =>
      if b = ascii '(' then
        advance 1
        readArithmetic fuel (depth + 1) (addText true [b] parts)
      else if b = ascii ')' then
        advance 1
        match depth with
        | depth + 1 => readArithmetic fuel depth (addText true [b] parts)
        | 0 =>
          if ← tryByte (ascii ')') then return parts.reverse
          else readArithmetic fuel 0 (addText true [b] parts)
      else if b = backslash then
        advance 1
        match ← peek with
        | none => complain "Missing '))'"
        | some next =>
          advance 1
          let drops := next = backslash || next = backquote || next = ascii '$'
            || next = doubleQuote
          readArithmetic fuel depth
            (addText true (if drops then [next] else [backslash, next]) parts)
      else if b = ascii '$' then
        advance 1
        match ← readDollar fuel true with
        | .text _ bytes => readArithmetic fuel depth (addText true bytes parts)
        | part => readArithmetic fuel depth (part :: parts)
      else if b = backquote then
        advance 1
        readArithmetic fuel depth ((← readBackquoted fuel true) :: parts)
      else
        advance 1
        let begun ← if b = lineEnd then beginLine else pure []
        readArithmetic fuel depth (addText true (b :: begun) parts)

/-- What follows a dollar sign and an opening brace. -/
def readBraced : Nat → Bool → Reader Part
  | 0, quoted => return .text quoted []
  | fuel + 1, quoted => do
    match ← peekJoined with
    | none => readTreatment fuel quoted (.variable []) (some .bad)
    | some b =>
      if Text.Ascii.isNameStart b then
        let name ← takeName Text.Ascii.isNameByte (← bound)
        readTreatment fuel quoted (.variable name) none
      else if Text.Ascii.isDigit b then
        let digits ← takeName Text.Ascii.isDigit (← bound)
        readTreatment fuel quoted (.argument (Text.Ascii.value 10 digits)) none
      else if b = ascii '}' then
        readTreatment fuel quoted (.variable []) (some .bad)
      else
        advance 1
        if b = ascii '#' then readCount fuel quoted
        else
          match specialParameter? b with
          | some parameter => readTreatment fuel quoted parameter none
          | none =>
            -- The end of a line is a sign here, and is not counted.
            if b = lineEnd then
              modify fun cursor => { cursor with line := cursor.line - 1 }
            readTreatment fuel quoted (.variable []) (some .bad)

/-- What follows a dollar sign, an opening brace and a number sign: a parameter whose length is
meant, or what is made of the number of arguments. -/
def readCount : Nat → Bool → Reader Part
  | 0, quoted => return .text quoted []
  | fuel + 1, quoted => do
    let before ← get
    match ← peekJoined with
    | none => readTreatment fuel quoted .count none
    | some b =>
      let parameter? ←
        if Text.Ascii.isNameStart b then
          pure (some (Parameter.variable (← takeName Text.Ascii.isNameByte (← bound))))
        else if Text.Ascii.isDigit b then
          pure (some (Parameter.argument
            (Text.Ascii.value 10 (← takeName Text.Ascii.isDigit (← bound)))))
        else if b = ascii '}' then pure none
        else do
          advance 1
          if (← peekJoined) = some (ascii '}') then
            pure (some ((specialParameter? b).getD (.variable [])))
          else
            set before
            pure none
      match parameter? with
      | none => readTreatment fuel quoted .count none
      | some parameter =>
        let isWhole := (← peekJoined) = some (ascii '}')
        let isKnown := parameter ≠ .variable []
        readTreatment fuel quoted parameter (some (if isWhole && isKnown then .length else .bad))

/-- What is made of a parameter, and the closing brace. It may be known already. -/
def readTreatment : Nat → Bool → Parameter → Option Treatment → Reader Part
  | 0, quoted, _, _ => return .text quoted []
  | fuel + 1, quoted, parameter, known? => do
    let wordPlace : Place := ⟨if quoted then .quoted else .bare, .brace, true, false⟩
    let finish (treatment : Treatment) : Reader Part := do
      advance 1
      return .parameter quoted parameter treatment
    match known? with
    | some treatment =>
      let _ ← readParts fuel wordPlace []
      finish treatment
    | none =>
      match ← peekJoined with
      | none =>
        let _ ← readParts fuel wordPlace []
        finish .bad
      | some b =>
        if b = ascii '}' then finish .value
        else if b = ascii '%' || b = ascii '#' then
          advance 1
          let longest ← tryByte b
          let pattern ← readParts fuel ⟨.bare, .brace, true, false⟩ []
          finish (.without (if b = ascii '#' then .front else .back) longest pattern)
        else
          let orEmpty := b = ascii ':'
          modify fun cursor =>
            { (cursor.drop 1) with line := cursor.line }
          let sign? ← if orEmpty then peekJoined else pure (some b)
          if orEmpty then
            modify fun cursor => { (cursor.drop 1) with line := cursor.line }
          let word ← readParts fuel wordPlace []
          match sign? with
          | none => finish .bad
          | some sign =>
            if sign = ascii '}' then finish .value
            else if sign = ascii '+' then finish (.provided orEmpty word)
            else
              match fallback? sign with
              | some fallback => finish (.unless orEmpty fallback word)
              | none => finish .bad

/-- The commands between backquotes, after the first one. -/
def readBackquoted : Nat → Bool → Reader Part
  | 0, quoted => return .text quoted []
  | fuel + 1, quoted => do
    let document? := (← get).document?
    modify fun cursor => { cursor with document? := none }
    let text ← readBackquotedText fuel quoted []
    modify fun cursor => { cursor with document? }
    let (command?, _) ← within text 1 (readList fuel true)
    return .output quoted command?

/-- The text between backquotes; `text` has been read. Inside, a backslash before a dollar sign, a
backquote or a backslash is taken away first. -/
def readBackquotedText : Nat → Bool → Bytes → Reader Bytes
  | 0, _, text => return text
  | fuel + 1, quoted, text => do
    match ← peekJoined with
    | none => complain "EOF in backquote substitution"
    | some b =>
      if b = backquote then
        advance 1
        return text
      else if b = backslash then
        advance 1
        match ← peek with
        | none => complain "EOF in backquote substitution"
        | some next =>
          advance 1
          let drops := next = ascii '$' || next = backquote || next = backslash
            || (quoted && next = doubleQuote)
          readBackquotedText fuel quoted (text ++ if drops then [next] else [b, next])
      else
        let run ← takeWhile fun b => b ≠ backquote && b ≠ backslash
        readBackquotedText fuel quoted (text ++ run)

/-- The next token by its letters alone. -/
def readLetters : Nat → Bool → Reader Token
  | 0, _ => return .endOfFile
  | fuel + 1, isMark => do
    match (← get).token? with
    | some token =>
      modify fun cursor => { cursor with token? := none }
      return token
    | none =>
      match ← peekJoined with
      | none => return .endOfFile
      | some b =>
        if isBlank b then
          let _ ← takeWhile isBlank
          readLetters fuel isMark
        else if b = ascii '#' then
          let _ ← takeWhile (· ≠ lineEnd)
          readLetters fuel isMark
        else if b = lineEnd then
          advance 1
          return .newline
        else if b = ascii '(' then
          advance 1
          return .sign "("
        else if b = ascii ')' then
          advance 1
          return .sign ")"
        else if b = ascii '&' || b = ascii '|' || b = ascii ';' then
          advance 1
          let sign := String.singleton (Char.ofNat b.toNat)
          return .sign (if ← tryByte b then sign ++ sign else sign)
        else
          let word ← readParts fuel ⟨.bare, .word, false, isMark⟩ []
          let next? ← peek
          if next? = some (ascii '<') || next? = some (ascii '>') then
            match word with
            | [] => readSign none
            | [.text false [digit]] =>
              if Text.Ascii.isDigit digit then readSign (some (Text.Ascii.value 10 [digit]))
              else return .word word
            | word => return .word word
          else return .word word

/-- The sign of a redirection, whose descriptor may be given. -/
def readSign : Option Nat → Reader Token
  | descriptor? => do
    if ← tryByte (ascii '>') then
      let descriptor := descriptor?.getD 1
      if ← tryByte (ascii '>') then return .redirection descriptor (.file .append)
      else if ← tryByte (ascii '|') then return .redirection descriptor (.file .force)
      else if ← tryByte (ascii '&') then return .redirection descriptor .same
      else return .redirection descriptor (.file .output)
    else
      advance 1
      let descriptor := descriptor?.getD 0
      if ← tryByte (ascii '<') then
        return .redirection descriptor (.document (← tryByte (ascii '-')))
      else if ← tryByte (ascii '&') then return .redirection descriptor .same
      else if ← tryByte (ascii '>') then return .redirection descriptor (.file .both)
      else return .redirection descriptor (.file .input)

/-- The next token. -/
def readToken : Nat → Expecting → Reader Token
  | 0, _ => return .endOfFile
  | fuel + 1, expecting => do
    match ← readLetters fuel false with
    | .newline =>
      if expecting.lines then
        readDocuments fuel
        readToken fuel expecting
      else return .newline
    | .word word =>
      let names := expecting.names || (← get).expectsName
      modify fun cursor => { cursor with expectsName := false }
      match word.plain? with
      | none => return .word word
      | some text =>
        let reserved? := reservedWords.find? fun reserved => Bytes.ofString reserved = text
        match if expecting.reserved then reserved? else none with
        | some reserved => return .reserved reserved
        | none =>
          let cursor ← get
          match if names && !cursor.isInUse text then cursor.aliases.lookup text else none with
          | none => return .word word
          | some value =>
            let endsBlank := value.getLast?.any isBlank
            set { cursor with stretches := ⟨value, some text, endsBlank⟩ :: cursor.stretches }
            readToken fuel { expecting with names }
    | token =>
      modify fun cursor => { cursor with expectsName := false }
      return token

/-- Reads the documents whose signs have been read. -/
def readDocuments : Nat → Reader Unit
  | 0 => return ()
  | fuel + 1 => do
    let cursor ← get
    match cursor.pending with
    | [] => return ()
    | document :: others =>
      set { cursor with pending := others }
      readDocument fuel document
      readDocuments fuel

/-- Reads a document. In one whose mark was quoted, nothing has a meaning of its own. -/
def readDocument : Nat → PendingDocument → Reader Unit
  | 0, _ => return ()
  | fuel + 1, document => do
    modify Cursor.settle
    let cursor ← get
    let word ←
      if document.isLiteral then do
        let (text, count) := documentLines document.mark document.stripsTabs
          (cursor.rest.length + 1) cursor.rest
        advance count
        pure [Part.text true text]
      else do
        set { cursor with document? := some document }
        let begun ← beginLine
        let parts ← readParts fuel ⟨.document, .text, false, false⟩ (if begun = [] then [] else [.text true begun])
        modify fun cursor => { cursor with document? := none, hasMark := false }
        pure parts
    modify fun cursor => { cursor with documents := (document.number, word) :: cursor.documents }

/-- Commands up to something that ends them, which is left. There must be one unless `optional` is
set. -/
def readList : Nat → Bool → Reader (Option Command)
  | 0, _ => return none
  | fuel + 1, optional => do
    let token ← readToken fuel .clause
    putBack token
    match token with
    | .endOfFile => return none
    | token =>
      if optional && token.isClosing then return none
      else
        let (command, goesOn) ← readItem fuel
        if goesOn then return some (← readListFrom fuel command) else return some command

/-- What follows the first commands of a list. -/
def readListFrom : Nat → Command → Reader Command
  | 0, command => return command
  | fuel + 1, command => do
    let token ← readToken fuel .clause
    putBack token
    if token.isClosing then return command
    else
      let (next, goesOn) ← readItem fuel
      let command := .sequence command next
      if goesOn then readListFrom fuel command else return command

/-- One command of a list with what ends it, and whether others may follow. -/
def readItem : Nat → Reader (Command × Bool)
  | 0 => return (default, false)
  | fuel + 1 => do
    let command ← readChain fuel
    match ← readToken fuel .word with
    | .sign "&" =>
      return (inBackground command, true)
    | .sign ";" => return (command, true)
    | .newline =>
      putBack .newline
      return (command, true)
    | .endOfFile =>
      putBack .endOfFile
      return (command, true)
    | token =>
      putBack token
      return (command, false)

/-- Pipelines joined by `&&` and `||`. -/
def readChain : Nat → Reader Command
  | 0 => return default
  | fuel + 1 => do
    readChainFrom fuel (← readPipeline fuel .word)

/-- What is joined to a chain. -/
def readChainFrom : Nat → Command → Reader Command
  | 0, command => return command
  | fuel + 1, command => do
    match ← readToken fuel .word with
    | .sign "&&" => readChainFrom fuel (.both command (← readPipeline fuel .clause))
    | .sign "||" => readChainFrom fuel (.either command (← readPipeline fuel .clause))
    | token =>
      putBack token
      return command

/-- Commands joined by `|`, with `!` in front or not. -/
def readPipeline : Nat → Expecting → Reader Command
  | 0, _ => return default
  | fuel + 1, expecting => do
    let token ← readToken fuel expecting
    let isNegated := token.isReserved "!"
    unless isNegated do
      putBack token
    let first ← readCommand fuel (if isNegated then .command else .word)
    let command ←
      match ← readToken fuel .word with
      | .sign "|" => pure (.pipeline (first :: (← readPiped fuel)) false)
      | token => do
        putBack token
        pure first
    return if isNegated then .negated command else command

/-- The commands behind a `|`. -/
def readPiped : Nat → Reader (List Command)
  | 0 => return []
  | fuel + 1 => do
    let command ← readCommand fuel .clause
    match ← readToken fuel .word with
    | .sign "|" => return command :: (← readPiped fuel)
    | token =>
      putBack token
      return [command]

/-- One command with its redirections. -/
def readCommand : Nat → Expecting → Reader Command
  | 0, _ => return default
  | fuel + 1, expecting => do
    let line := (← get).line
    match ← readToken fuel expecting with
    | .word word =>
      putBack (.word word)
      readSimple fuel (← get).line true [] [] []
    | .redirection descriptor sign =>
      putBack (.redirection descriptor sign)
      readSimple fuel (← get).line true [] [] []
    | .sign "(" =>
      let command ← readBlock fuel
      closeBy fuel (.sign ")")
      return .subshell line command (← readRedirections fuel)
    | .reserved "\x7b" =>
      let command ← readBlock fuel
      closeBy fuel (.reserved "\x7d")
      redirected fuel line command
    | .reserved "if" =>
      let command ← readChoice fuel
      closeBy fuel (.reserved "fi")
      redirected fuel line command
    | .reserved "while" => readLoop fuel line false
    | .reserved "until" => readLoop fuel line true
    | .reserved "for" =>
      let command ← readIteration fuel line
      redirected fuel line command
    | .reserved "case" =>
      let command ← readSelection fuel line
      redirected fuel line command
    | token => unexpected token none

/-- Takes the token that must end a command. -/
def closeBy : Nat → Token → Reader Unit
  | 0, _ => return ()
  | fuel + 1, expected => do
    let token ← readToken fuel .word
    let isExpected :=
      match expected with
      | .sign text => token.isSign text
      | .reserved text => token.isReserved text
      | _ => false
    unless isExpected do
      unexpected token (some expected)

/-- A command with the redirections behind it. -/
def redirected : Nat → Nat → Command → Reader Command
  | 0, _, command => return command
  | fuel + 1, line, command => do
    match ← readRedirections fuel with
    | [] => return command
    | redirections => return .redirected line command redirections

/-- The redirections that come next. -/
def readRedirections : Nat → Reader (List Redirection)
  | 0 => return []
  | fuel + 1 => do
    match ← readToken fuel .command with
    | .redirection descriptor sign =>
      let redirection ← readTarget fuel descriptor sign
      return redirection :: (← readRedirections fuel)
    | token =>
      putBack token
      return []

/-- The word behind the sign of a redirection. -/
def readTarget : Nat → Nat → Sign → Reader Redirection
  | 0, descriptor, _ => return .same descriptor []
  | fuel + 1, descriptor, sign => do
    match sign with
    | .document stripsTabs =>
      match ← readLetters fuel true with
      | .word word =>
        let cursor ← get
        let document : PendingDocument :=
          ⟨cursor.nextDocument, unquoted word, word.plain?.isNone, stripsTabs⟩
        set { cursor with
          pending := cursor.pending ++ [document], nextDocument := cursor.nextDocument + 1 }
        return .document descriptor document.number
      | token => unexpected token none
    | sign =>
      match ← readToken fuel .word with
      | .word word =>
        return match sign with
          | .file mode => .file descriptor mode word
          | _ => .same descriptor word
      | token => unexpected token none

/-- Commands of which there must be one. Where the text ends, whoever asked for them complains. -/
def readBlock : Nat → Reader Command
  | 0 => return default
  | fuel + 1 => do
    return (← readList fuel false).getD default

/-- What follows `if` or `elif`, without `fi`. -/
def readChoice : Nat → Reader Command
  | 0 => return default
  | fuel + 1 => do
    let condition ← readBlock fuel
    closeBy fuel (.reserved "then")
    let consequence ← readBlock fuel
    match ← readToken fuel .word with
    | .reserved "elif" => return .choice condition consequence (some (← readChoice fuel))
    | .reserved "else" => return .choice condition consequence (some (← readBlock fuel))
    | token =>
      putBack token
      return .choice condition consequence none

/-- What follows `while` or `until`. -/
def readLoop : Nat → Nat → Bool → Reader Command
  | 0, _, _ => return default
  | fuel + 1, line, untilSuccess => do
    let condition ← readBlock fuel
    closeBy fuel (.reserved "do")
    let body ← readBlock fuel
    closeBy fuel (.reserved "done")
    redirected fuel line (.loop untilSuccess condition body)

/-- What follows `for`. -/
def readIteration : Nat → Nat → Reader Command
  | 0, _ => return default
  | fuel + 1, line => do
    let name ←
      match ← readToken fuel .word with
      | .word word =>
        match word.plain? with
        | some name =>
          if Text.Ascii.isName name then pure name else complain "Bad for loop variable"
        | none => complain "Bad for loop variable"
      | _ => complain "Bad for loop variable"
    let words ←
      match ← readToken fuel .clause with
      | .reserved "in" => readWords fuel
      | token => do
        unless token.isSign ";" do
          putBack token
        pure [[Part.parameter true .each .value]]
    let token ← readToken fuel .clause
    unless token.isReserved "do" do
      unexpected token (some (.reserved "do"))
    let body ← readBlock fuel
    closeBy fuel (.reserved "done")
    return .iterate line name words body

/-- Words up to the end of a line or a semicolon, which is taken. -/
def readWords : Nat → Reader (List Word)
  | 0 => return []
  | fuel + 1 => do
    match ← readToken fuel .word with
    | .word word => return word :: (← readWords fuel)
    | .newline | .sign ";" => return []
    | token => unexpected token none

/-- What follows `case`. -/
def readSelection : Nat → Nat → Reader Command
  | 0, _ => return default
  | fuel + 1, line => do
    let subject ←
      match ← readToken fuel .word with
      | .word word => pure word
      | token => unexpected token (some (.word []))
    let token ← readToken fuel .clause
    unless token.isReserved "in" do
      unexpected token (some (.reserved "in"))
    return .select line subject (← readBranches fuel)

/-- The branches of a selection, and its closing word. -/
def readBranches : Nat → Reader (List (List Word × Option Command))
  | 0 => return []
  | fuel + 1 => do
    let token ← readToken fuel .branch
    if token.isReserved "esac" then return []
    else
      let token ← if token.isSign "(" then readToken fuel .word else pure token
      let patterns ← readAlternatives fuel token
      let command? ← readList fuel true
      let token ← readToken fuel .branch
      if token.isReserved "esac" then return [(patterns, command?)]
      else if token.isSign ";;" then return (patterns, command?) :: (← readBranches fuel)
      else unexpected token (some (.sign ";;"))

/-- Patterns joined by `|`, of which the first token has been read, and the parenthesis behind
them. -/
def readAlternatives : Nat → Token → Reader (List Word)
  | 0, _ => return []
  | fuel + 1, token => do
    let pattern ←
      match token with
      | .word word => pure word
      | .reserved word => pure [Part.text false (Bytes.ofString word)]
      | token => unexpected token (some (.word []))
    match ← readToken fuel .word with
    | .sign "|" => return pattern :: (← readAlternatives fuel (← readToken fuel .word))
    | .sign ")" => return [pattern]
    | token => unexpected token (some (.sign ")"))

/-- A command made of assignments, words and redirections, in any order; some have been read, the
last ones first. As long as `isEarly` is set, a word may be an assignment or stand for others. -/
def readSimple : Nat → Nat → Bool → List (Bytes × Word) → List Word → List Redirection →
    Reader Command
  | 0, line, _, assignments, words, redirections =>
    return .simple line assignments.reverse words.reverse redirections.reverse
  | fuel + 1, line, isEarly, assignments, words, redirections => do
    match ← readToken fuel (if isEarly then .argument else .word) with
    | .word word =>
      match if isEarly then assignment? word else none with
      | some assignment =>
        readSimple fuel line true (assignment :: assignments) words redirections
      | none => readSimple fuel line false assignments (word :: words) redirections
    | .redirection descriptor sign =>
      let redirection ← readTarget fuel descriptor sign
      readSimple fuel line isEarly assignments words (redirection :: redirections)
    | token =>
      match token.isSign "(", assignments, words, redirections with
      | true, [], [name], [] =>
        closeBy fuel (.sign ")")
        let name := (name.plain?.getD [])
        if !Text.Ascii.isName name || specialCommands.contains name.shown then
          complain "Bad function name"
        let line := (← get).line
        return .define line name (← readCommand fuel .clause)
      | _, _, _, _ =>
        putBack token
        return .simple line assignments.reverse words.reverse redirections.reverse

end

/-- The commands of one line, with what has been read of the line. -/
def readLineFrom : Nat → Option Command → Reader (Option Command)
  | 0, command? => return command?
  | fuel + 1, command? => do
    match ← readToken fuel .command with
    | .newline =>
      readDocuments fuel
      return command?
    | .endOfFile =>
      readDocuments fuel
      putBack .endOfFile
      return command?
    | token =>
      putBack token
      let (next, goesOn) ← readItem fuel
      unless goesOn do
        unexpected (← readToken fuel .word) none
      readLineFrom fuel (some (match command? with
        | some command => .sequence command next
        | none => next))

end Grammar

/-- One line of a script: its commands, or nothing more because the script ends. -/
inductive Line where
  | commands (command? : Option Command)
  | ended

/-- How many steps reading takes at most. -/
def Cursor.fuel (cursor : Cursor) : Nat :=
  let size := Numeral.total (cursor.stretches.map fun stretch => stretch.rest.length)
    + Numeral.total (cursor.aliases.map fun entry => entry.2.length)
  16 * size + 256

/-- Reads a text in which nothing but parameters and commands to be expanded have a meaning. -/
def Cursor.readText (cursor : Cursor) : Except Complaint (Word × Cursor) :=
  (Grammar.readParts cursor.fuel ⟨.document, .text, false, false⟩ []).run cursor

/-- Reads a line at a cursor. -/
def Cursor.readLine (cursor : Cursor) : Except Complaint (Line × Cursor) :=
  match (Grammar.readLineFrom cursor.fuel none).run cursor with
  | .error complaint => .error complaint
  | .ok (command?, cursor) =>
    match command?, cursor.token? with
    | none, some .endOfFile => .ok (.ended, cursor)
    | command?, _ => .ok (.commands command?, cursor)

end ChangelogSql.Shell
