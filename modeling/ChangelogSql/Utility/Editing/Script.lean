import ChangelogSql.Utility.Editing.Escape
import ChangelogSql.Utility.Matching

/-!
Scripts of the stream editor: what they consist of, and how they are read.
-/

namespace ChangelogSql.Utility.Editing

open Text (ascii)

/-- A regular expression; the one that was used last where it is left out. -/
abbrev Pattern := Option Expression.Program

/-- Lines that are meant. -/
inductive Address where
  | line (number : Nat)
  /-- A line, and every one that is a multiple of a step away from it. -/
  | step (first step : Nat)
  | last
  | holding (pattern : Pattern)

/-- Where a range ends. -/
inductive Limit where
  | address (address : Address)
  /-- So many lines behind its first one. -/
  | after (count : Nat)
  /-- At a line whose number is a multiple of another. -/
  | multiple (factor : Nat)

/-- The lines that a command is for. -/
structure Selector where
  first? : Option Address
  limit? : Option Limit
  isNegated : Bool

/-- How letters are changed in what is put in. -/
inductive Turn where
  | upper
  | lower
  | upperNext
  | lowerNext
  | asIs
  deriving DecidableEq

/-- A part of what is put in for a match. -/
inductive Part where
  | text (bytes : Bytes)
  | group (number : Nat)
  | turn (turn : Turn)

/-- A substitution. -/
structure Substitution where
  pattern : Pattern
  parts : List Part
  isGlobal : Bool
  prints : Bool
  /-- The first match that is replaced. -/
  number : Nat
  file? : Option Bytes

/-- When a jump is made. -/
inductive Condition where
  | always
  | substituted
  | unsubstituted
  deriving DecidableEq

/-- What a command does. -/
inductive Action where
  /-- Goes on behind another command, unless the lines are meant. -/
  | block (stop : Nat)
  | nothing
  | append (text : Bytes)
  | insert (text : Bytes)
  | change (text : Bytes)
  | jump (condition : Condition) (label : Bytes)
  | delete
  | deleteFirst
  | print
  | printFirst
  | next
  | appendNext
  | get
  | getMore
  | hold
  | holdMore
  | exchange
  | clear
  | tellNumber
  | tellName
  | spellOut (width? : Option Nat)
  | quit (prints : Bool) (code : UInt8)
  | readFile (path : Bytes)
  | readLine (path : Bytes)
  | writeFile (path : Bytes)
  | writeFirst (path : Bytes)
  | substitute (substitution : Substitution)
  | transliterate (pairs : List (UInt8 × UInt8))

/-- A command. -/
structure Instruction where
  selector : Selector
  action : Action

/-- A script that has been read. -/
structure Script where
  instructions : Array Instruction
  labels : List (Bytes × Nat)
  /-- Its first line says that nothing is shown unless it is asked for. -/
  isQuiet : Bool

/-- Where a part of a script comes from. -/
inductive Origin where
  | argument (number : Nat)
  | file (name : Bytes)

/-- What has been read, and what is to be read. -/
structure Reading where
  rest : Bytes
  taken : Nat
  line : Nat
  origin : Origin
  isExtended : Bool
  /-- Patterns can be told to look at lines within a text. -/
  canHaveLines : Bool
  instructions : Array Instruction
  labels : List (Bytes × Nat)
  /-- The places where blocks begin that are not closed, the last first. -/
  open' : List (Nat × Origin × Nat)
  /-- A text that goes on in the next part. -/
  pending? : Option (Bytes → Action)
  pendingText : Bytes
  isQuiet : Bool

/-- A step of reading; what is refused is told by a complaint. -/
abbrev Reader (α : Type) := ExceptT Bytes (StateM Reading) α

namespace Reader

/-- A complaint with the place it is about in front. -/
def located (origin : Origin) (line taken : Nat) (text : Bytes) : Bytes :=
  match origin with
  | .argument number =>
    Bytes.ofString s!"-e expression #{number}, char {taken}: " ++ text
  | .file name => Bytes.ofString "file " ++ name ++ Bytes.ofString s!" line {line}: " ++ text

/-- Something is wrong at the place that was read last. -/
def refuseBytes {α : Type} (text : Bytes) : Reader α := do
  let reading ← get
  throw (located reading.origin reading.line reading.taken text)

def refuse {α : Type} (text : String) : Reader α :=
  refuseBytes (Bytes.ofString text)

/-- The next byte, which stays where it is. -/
def peek : Reader (Option UInt8) := do
  return (← get).rest.head?

/-- Takes so many bytes. -/
def skip (count : Nat) : Reader Unit :=
  modify fun reading =>
    { reading with
      rest := reading.rest.drop count
      taken := reading.taken + min count reading.rest.length
      line := reading.line + (reading.rest.take count).count 0x0A }

/-- Takes the next byte. -/
def take : Reader (Option UInt8) := do
  let b? ← peek
  skip 1
  return b?

/-- Skips all bytes that are of a kind. -/
def skipWhile (test : UInt8 → Bool) : Reader Unit := do
  skip ((← get).rest.takeWhile test).length

def isBlank (b : UInt8) : Bool :=
  b = ascii ' ' || b = ascii '\t'

/-- Takes the next byte that is no blank. -/
def takeInk : Reader (Option UInt8) := do
  skipWhile isBlank
  take

/-- Takes a number; it is zero where there is none. -/
def takeNumber : Reader Nat := do
  let digits := (← get).rest.takeWhile Text.Ascii.isDigit
  skip digits.length
  return Text.Ascii.value 10 digits

/-- Where reading is with regard to a bracketed set. -/
inductive Bracket where
  | outside
  /-- Right behind its first sign. -/
  | opening
  /-- In front of its first member. -/
  | begun
  | inside (isBehindBracket : Bool)
  /-- In a name within it, between two signs. -/
  | named (sign : UInt8) (isBehindSign : Bool)
  deriving DecidableEq

/-- Where reading is after one more byte. -/
def Bracket.after (bracket : Bracket) (b : UInt8) : Bracket :=
  let member (isBehindBracket : Bool) : Bracket :=
    if isBehindBracket && (b = ascii ':' || b = ascii '.' || b = ascii '=') then .named b false
    else .inside (b = ascii '[')
  match bracket with
  | .outside => if b = ascii '[' then .opening else .outside
  | .opening => if b = ascii '^' then .begun else member false
  | .begun => member false
  | .inside isBehindBracket => if b = ascii ']' then .outside else member isBehindBracket
  | .named sign isBehindSign =>
    if isBehindSign && b = ascii ']' then .inside false else .named sign (b = sign)

/-- A text up to a byte, how many bytes have been read for it, and whether the byte was there. In a
pattern, one in a bracketed set does not count. -/
def delimited (slash : UInt8) (isPattern : Bool) : Bracket → Bytes → Bytes × Nat × Bool
  | _, [] => ([], 0, false)
  | bracket, b :: rest =>
    if b = 0x0A then ([], 0, false)
    else if bracket ≠ .outside then
      let (text, count, closed) := delimited slash isPattern (bracket.after b) rest
      (b :: text, count + 1, closed)
    else if b = slash then ([], 1, true)
    else if b ≠ ascii '\\' then
      let bracket := if isPattern then bracket.after b else .outside
      let (text, count, closed) := delimited slash isPattern bracket rest
      (b :: text, count + 1, closed)
    else
      match rest with
      | [] => ([], 1, false)
      | next :: rest =>
        let (text, count, closed) := delimited slash isPattern .outside rest
        let piece :=
          if next = ascii 'n' && isPattern && slash ≠ next then [0x0A]
          else if next = 0x0A || (next = slash && !(!isPattern && next = ascii '&')) then [next]
          else [b, next]
        (piece ++ text, count + 2, closed)

/-- Takes a text up to a byte. -/
def takeDelimited (slash : UInt8) (isPattern : Bool) (complaint : String) : Reader Bytes := do
  let (text, count, closed) := delimited slash isPattern .outside (← get).rest
  skip count
  if closed then return text else refuse complaint

/-- The pattern that a text is. -/
def patternOf (text : Bytes) (ignoresCase hasLines : Bool) (groups : Nat) : Reader Pattern := do
  if text = [] then
    if ignoresCase || hasLines then
      refuse "cannot specify modifiers on empty regexp"
    return none
  let form := if (← get).isExtended then Expression.extended else Expression.basic
  let hasLines := hasLines && (← get).canHaveLines
  match Expression.compile form ignoresCase hasLines (Escape.resolved .pattern text) with
  | .error fault => refuse fault.message
  | .ok program =>
    if program.groups < groups then
      refuse s!"invalid reference \\{groups} on `s' command's RHS"
    return some program

/-- Takes the letters behind the pattern of an address. -/
def takeModifiers : Nat → Bool → Bool → Reader (Bool × Bool)
  | 0, ignoresCase, hasLines => return (ignoresCase, hasLines)
  | fuel + 1, ignoresCase, hasLines => do
    skipWhile isBlank
    let b? ← peek
    if b? = some (ascii 'I') then
      skip 1
      takeModifiers fuel true hasLines
    else if b? = some (ascii 'M') then
      skip 1
      takeModifiers fuel ignoresCase true
    else return (ignoresCase, hasLines)

/-- Takes an address between slashes. -/
def takePattern (slash : UInt8) : Reader Address := do
  let text ← takeDelimited slash true "unterminated address regex"
  let (ignoresCase, hasLines) ← takeModifiers (text.length + (← get).rest.length + 1) false false
  return .holding (← patternOf text ignoresCase hasLines 0)

/-- Takes what can stand where a range ends, if it is there. -/
def takeLimit? : Reader (Option Limit) := do
  match ← peek with
  | none => return none
  | some b =>
    if b = ascii '/' then
      skip 1
      return some (.address (← takePattern b))
    else if b = ascii '\\' then
      skip 1
      match ← take with
      | some slash => return some (.address (← takePattern slash))
      | none => refuse "unterminated address regex"
    else if Text.Ascii.isDigit b then
      let number ← takeNumber
      skipWhile isBlank
      if (← peek) = some (ascii '~') then
        skip 1
        skipWhile isBlank
        let step ← takeNumber
        return some (.address (if step = 0 then .line number else .step number step))
      else return some (.address (.line number))
    else if b = ascii '+' || b = ascii '~' then
      skip 1
      skipWhile isBlank
      let number ← takeNumber
      return some (if b = ascii '+' then .after number else .multiple number)
    else if b = ascii '$' then
      skip 1
      return some (.address .last)
    else return none

/-- A command can be for what comes before the first line: a range, or reading a file there. -/
def canBeginAtZero (limit? : Option Limit) (sign? : Option UInt8) : Bool :=
  match limit? with
  | some (.address (.holding _)) => true
  | some _ => false
  | none => sign? = some (ascii 'r')

/-- Takes the lines that a command is for, and the sign of the command. -/
def takeSelector : Reader (Selector × Option UInt8) := do
  let first? ← takeLimit?
  let first? : Option Address ←
    match first? with
    | none => pure none
    | some (.address address) => pure (some address)
    | some _ => refuse "invalid usage of +N or ~N as first address"
  let mut limit? : Option Limit := none
  let mut sign? ← takeInk
  if first?.isSome && sign? = some (ascii ',') then
    skipWhile isBlank
    limit? ← takeLimit?
    if limit?.isNone then
      skip 1
      refuse "unexpected `,'"
    sign? ← takeInk
  match first? with
  | some (.line 0) =>
    unless canBeginAtZero limit? sign? do
      refuse "invalid usage of line address 0"
  | _ => pure ()
  if sign? = some (ascii '!') then
    sign? ← takeInk
    if sign? = some (ascii '!') then
      refuse "multiple `!'s"
    return (⟨first?, limit?, true⟩, sign?)
  else return (⟨first?, limit?, false⟩, sign?)

/-- Takes what may stand behind a command. -/
def takeEnd : Reader Unit := do
  skipWhile isBlank
  match ← peek with
  | none => return ()
  | some b =>
    if b = 0x7D || b = ascii '#' then return ()
    else
      skip 1
      unless b = 0x0A || b = ascii ';' do
        refuse "extra characters after command"

/-- Takes a label. -/
def takeLabel : Reader Bytes := do
  skipWhile isBlank
  let label := (← get).rest.takeWhile fun b =>
    !(Text.Ascii.isSpace b || b = ascii ';' || b = 0x7D)
  skip label.length
  return label

/-- Takes the name of a file, which goes to the end of the line. -/
def takeName : Reader Bytes := do
  skipWhile isBlank
  let name := (← get).rest.takeWhile (· ≠ 0x0A)
  skip (name.length + 1)
  if name = [] then
    refuse "missing filename in r/R/w/W commands"
  return name

/-- The signs for a change that another one undoes at once are left out. -/
def settled : List Part → List Part
  | .turn turn :: .turn next :: rest =>
    let isUndone :=
      (turn = .upperNext || turn = .lowerNext) && next ≠ .upperNext && next ≠ .lowerNext
    if isUndone then settled (.turn next :: rest) else .turn turn :: settled (.turn next :: rest)
  | part :: rest => part :: settled rest
  | [] => []

/-- The parts of what is put in. -/
def partsOf : Bytes → List Part
  | [] => []
  | [b] => if b = ascii '&' then [.group 0] else [.text [b]]
  | b :: next :: rest =>
    if b = ascii '&' then .group 0 :: partsOf (next :: rest)
    else if b ≠ ascii '\\' then .text [b] :: partsOf (next :: rest)
    else if Text.Ascii.isDigit next then .group (next.toNat - 48) :: partsOf rest
    else
      let part : Part :=
        if next = ascii 'U' then .turn .upper
        else if next = ascii 'L' then .turn .lower
        else if next = ascii 'u' then .turn .upperNext
        else if next = ascii 'l' then .turn .lowerNext
        else if next = ascii 'E' then .turn .asIs
        else .text [next]
      part :: partsOf rest

/-- The highest group that parts refer to. -/
def highest (parts : List Part) : Nat :=
  parts.foldl
    (fun most part =>
      match part with
      | .group number => max most number
      | _ => most)
    0

/-- What stands behind a substitution. -/
structure Flags where
  ignoresCase : Bool := false
  hasLines : Bool := false
  isGlobal : Bool := false
  prints : Bool := false
  number? : Option Nat := none
  file? : Option Bytes := none

/-- Takes what stands behind a substitution. -/
def takeFlags : Nat → Flags → Reader Flags
  | 0, flags => return flags
  | fuel + 1, flags => do
    match ← peek with
    | none => return flags
    | some b =>
      if b = 0x7D || b = ascii '#' then return flags
      else if Text.Ascii.isDigit b then
        if flags.number?.isSome then
          skip 1
          refuse "multiple number options to `s' command"
        let number ← takeNumber
        if number = 0 then
          refuse "number option to `s' command may not be zero"
        takeFlags fuel { flags with number? := some number }
      else
        skip 1
        match Char.ofNat b.toNat with
        | 'i' | 'I' => takeFlags fuel { flags with ignoresCase := true }
        | 'm' | 'M' => takeFlags fuel { flags with hasLines := true }
        | 'p' =>
          if flags.prints then refuse "multiple `p' options to `s' command"
          takeFlags fuel { flags with prints := true }
        | 'g' =>
          if flags.isGlobal then refuse "multiple `g' options to `s' command"
          takeFlags fuel { flags with isGlobal := true }
        | 'w' => return { flags with file? := some (← takeName) }
        | '\n' | ';' => return flags
        | ' ' | '\t' => takeFlags fuel flags
        | '\r' =>
          if (← take) = some 0x0A then return flags else refuse "unknown option to `s'"
        | _ => refuse "unknown option to `s'"

/-- Takes a substitution. -/
def takeSubstitution : Reader Action := do
  let complaint := "unterminated `s' command"
  let slash ←
    match ← take with
    | some slash => pure slash
    | none => refuse complaint
  let text ← takeDelimited slash true complaint
  let text' ← takeDelimited slash false complaint
  let parts := settled (partsOf (Escape.resolved .replacement text'))
  let flags ← takeFlags ((← get).rest.length + 1) {}
  let pattern ← patternOf text flags.ignoresCase flags.hasLines (highest parts)
  return .substitute
    ⟨pattern, parts, flags.isGlobal, flags.prints, flags.number?.getD 1, flags.file?⟩

/-- Takes a change of single bytes. -/
def takeTransliteration : Reader Action := do
  let complaint := "unterminated `y' command"
  let slash ←
    match ← take with
    | some slash => pure slash
    | none => refuse complaint
  let plain (text : Bytes) : Bytes := unescaped (Escape.resolved .plain text)
  let old := plain (← takeDelimited slash false complaint)
  let new := plain (← takeDelimited slash false complaint)
  if old.length ≠ new.length then
    refuse "strings for `y' command are different lengths"
  takeEnd
  return .transliterate (old.zip new).reverse
where
  /-- A text without its backslashes; a line end can be written with one. -/
  unescaped : Bytes → Bytes
    | [] => []
    | [b] => [b]
    | b :: next :: rest =>
      if b ≠ ascii '\\' then b :: unescaped (next :: rest)
      else if next = ascii 'n' then 0x0A :: unescaped rest
      else next :: unescaped rest

/-- The lines of a text up to one that no backslash ends, how many bytes have been read for it, and
whether another line must follow. -/
def textLines : Bytes → Bytes × Nat × Bool
  | [] => ([0x0A], 0, false)
  | b :: rest =>
    if b = 0x0A then ([b], 1, false)
    else if b ≠ ascii '\\' then
      let (text, count, isOpen) := textLines rest
      (b :: text, count + 1, isOpen)
    else
      match rest with
      | [] => ([0x0A], 1, true)
      | next :: rest =>
        let (text, count, isOpen) := textLines rest
        if next = 0x0A && rest = [] then ([b, next], 2, true)
        else (b :: next :: text, count + 2, isOpen)

/-- A text as it is put out. -/
def shownText (text : Bytes) : Bytes :=
  Escape.stripped (Escape.resolved .plain text)

/-- Takes the rest of a text; it can go on in the next part of the script. -/
def takeText (before : Bytes) (make : Bytes → Action) : Reader Action := do
  let (text, count, isOpen) := textLines (← get).rest
  skip count
  let text := before ++ text
  modify fun reading =>
    if isOpen then { reading with pending? := some make, pendingText := text }
    else { reading with pending? := none, pendingText := [] }
  return make (shownText text)

/-- Takes a text behind the sign of a command. -/
def takeFirstText (make : Bytes → Action) : Reader Action := do
  skipWhile isBlank
  match ← peek with
  | none => refuse "expected \\ after `a', `c' or `i'"
  | some b =>
    if b = ascii '\\' then
      skip 1
      match (← get).rest with
      | [] =>
        modify ({ · with pending? := some make, pendingText := [] })
        return make []
      | 0x0A :: _ =>
        skip 1
        takeText [] make
      | _ => takeText [] make
    else takeText [] make

/-- Takes the code with which a command ends the editor. -/
def takeCode : Reader UInt8 := do
  skipWhile isBlank
  let number ← takeNumber
  takeEnd
  return UInt8.ofNat number

/-- A command that takes nothing. -/
def bare (action : Action) : Reader Action := do
  takeEnd
  return action

/-- Takes what a command does, after its sign. -/
def takeAction (selector : Selector) (sign : UInt8) : Reader Action := do
  match Char.ofNat sign.toNat with
  | 'a' => takeFirstText .append
  | 'i' => takeFirstText .insert
  | 'c' => takeFirstText .change
  | ':' =>
    if selector.first?.isSome then
      refuse ": doesn't want any addresses"
    let label ← takeLabel
    if label = [] then
      refuse "\":\" lacks a label"
    modify fun reading =>
      { reading with labels := reading.labels ++ [(label, reading.instructions.size)] }
    return .nothing
  | 'b' => return .jump .always (← takeLabel)
  | 't' => return .jump .substituted (← takeLabel)
  | 'T' => return .jump .unsubstituted (← takeLabel)
  | 'q' | 'Q' =>
    if selector.limit?.isSome then
      refuse "command only uses one address"
    return .quit (sign = ascii 'q') (← takeCode)
  | 'l' =>
    skipWhile isBlank
    let hasWidth := (← peek).any Text.Ascii.isDigit
    let width ← takeNumber
    bare (.spellOut (if hasWidth then some width else none))
  | 'r' => return .readFile (← takeName)
  | 'R' => return .readLine (← takeName)
  | 'w' => return .writeFile (← takeName)
  | 'W' => return .writeFirst (← takeName)
  | 's' => takeSubstitution
  | 'y' => takeTransliteration
  | '=' => bare .tellNumber
  | 'd' => bare .delete
  | 'D' => bare .deleteFirst
  | 'F' => bare .tellName
  | 'g' => bare .get
  | 'G' => bare .getMore
  | 'h' => bare .hold
  | 'H' => bare .holdMore
  | 'n' => bare .next
  | 'N' => bare .appendNext
  | 'p' => bare .print
  | 'P' => bare .printFirst
  | 'x' => bare .exchange
  | 'z' => bare .clear
  | _ => refuseBytes (Bytes.ofString "unknown command: `" ++ [sign, 0x27])

/-- Adds a command. -/
def add (instruction : Instruction) : Reader Unit :=
  modify fun reading => { reading with instructions := reading.instructions.push instruction }

/-- Begins a block. -/
def openBlock (selector : Selector) : Reader Unit := do
  modify fun reading =>
    { reading with
      open' := (reading.instructions.size, reading.origin, reading.line) :: reading.open' }
  add ⟨selector, .block 0⟩

/-- Ends a block. -/
def closeBlock (selector : Selector) : Reader Unit := do
  match (← get).open' with
  | [] => refuse "unexpected `\x7d'"
  | (place, _, _) :: others =>
    if selector.first?.isSome then
      refuse "`\x7d' doesn't want any addresses"
    takeEnd
    modify fun reading =>
      let stop := reading.instructions.size
      { reading with
        open' := others
        instructions :=
          reading.instructions.modify place fun instruction =>
            { instruction with action := .block stop } }

/-- Skips a comment; one at the beginning can ask for quiet. -/
def takeComment : Reader Unit := do
  let reading ← get
  let isFirst :=
    match reading.origin with
    | .argument number => number = 1
    | .file _ => reading.instructions.isEmpty
  let text := reading.rest.takeWhile (· ≠ 0x0A)
  if isFirst && reading.taken = 1 && reading.line = 1 && text = [ascii 'n'] then
    modify ({ · with isQuiet := true })
  skip (text.length + 1)

/-- Takes one command. -/
def takeInstruction : Reader Unit := do
  let (selector, sign?) ← takeSelector
  match sign? with
  | none => refuse "missing command"
  | some sign =>
    if sign = ascii '#' then
      if selector.first?.isSome then
        refuse "comments don't accept any addresses"
      takeComment
    else if sign = 0x7B then openBlock selector
    else if sign = 0x7D then closeBlock selector
    else if sign = ascii 'v' then
      let version ← takeLabel
      if Bytes.ofString "4.9" < version then
        refuse "expected newer version of sed"
    else
      let action ← takeAction selector sign
      add ⟨selector, action⟩

/-- Takes all commands. -/
def takeAll : Nat → Reader Unit
  | 0 => return ()
  | fuel + 1 => do
    skipWhile fun b => Text.Ascii.isSpace b || b = ascii ';'
    if (← peek).isSome then
      takeInstruction
      takeAll fuel

/-- Takes a part of a script. -/
def takePart (origin : Origin) (text : Bytes) : Reader Unit := do
  modify ({ · with rest := text, taken := 0, line := 1, origin })
  let reading ← get
  match reading.pending? with
  | some make =>
    let action ← takeText reading.pendingText make
    modify fun reading =>
      { reading with
        instructions :=
          reading.instructions.modify (reading.instructions.size - 1) fun instruction =>
            { instruction with action } }
  | none => pure ()
  takeAll (text.length + 1)

end Reader

namespace Script

/-- A label that is jumped to and that is not there. -/
def lostLabel? (reading : Reading) : Option Bytes :=
  reading.instructions.toList.findSome? fun instruction =>
    match instruction.action with
    | .jump _ label =>
      if label = [] || (reading.labels.lookup label).isSome then none else some label
    | _ => none

/-- Why there is no script. -/
structure Refusal where
  code : UInt8
  complaint : Bytes

/-- The script that some parts are. -/
def ofParts (isExtended canHaveLines : Bool) (parts : List (Origin × Bytes)) : Except Refusal Script :=
  let start : Reading :=
    ⟨[], 0, 1, .argument 0, isExtended, canHaveLines, #[], [], [], none, [], false⟩
  let whole : Reader Unit := parts.forM fun (origin, text) => Reader.takePart origin text
  match StateT.run (ExceptT.run whole) start with
  | (.error complaint, _) => .error ⟨1, complaint⟩
  | (.ok (), reading) =>
    match reading.open' with
    | (_, origin, line) :: _ =>
      .error ⟨1, Reader.located origin line 0 (Bytes.ofString "unmatched `\x7b'")⟩
    | [] =>
      match lostLabel? reading with
      | some label =>
        .error ⟨4, Bytes.ofString "can't find label for jump to `" ++ label ++ [0x27]⟩
      | none => .ok ⟨reading.instructions, reading.labels, reading.isQuiet⟩

end Script

end ChangelogSql.Utility.Editing
