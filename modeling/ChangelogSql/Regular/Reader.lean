import ChangelogSql.Regular.Class
import ChangelogSql.Regular.Tree

/-!
From the text of an expression to its tree. The text is read from the left, and
the first trouble ends the reading. Every rule takes something from the text
before it calls another, so the length of the text bounds how deep the rules can
nest.
-/

namespace ChangelogSql.Regular

/-- A text that is being read: the place the reading has come to, whether blanks and remarks count
for nothing, and the names of groups so far. -/
structure Cursor where
  text : Array Char
  place : Nat
  spaced : Bool
  names : List (String × Span)

/-- A step that takes something from the front of a text. -/
abbrev Reader := StateT Cursor (Except Fault)

/-- What can stand in an expression by itself or between brackets. -/
inductive Atom where
  | character (span : Span) (char : Char) (isByte : Bool)
  | dot (span : Span)
  | anchor (span : Span) (anchor : Anchor)
  | shorthand (span : Span) (shorthand : Shorthand) (negated : Bool)
  | property (span : Span) (property : Property) (negated : Bool)

namespace Atom

def span : Atom → Span
  | .character span _ _ | .dot span | .anchor span _ | .shorthand span _ _
  | .property span _ _ => span

def tree : Atom → Tree
  | .character span char isByte => .character span char isByte
  | .dot span => .dot span
  | .anchor span asked => .anchor span asked
  | .shorthand span letter negated => .shorthand span letter negated
  | .property span wanted negated => .property span wanted negated

end Atom

namespace Reader

variable {α : Type}

/-- Goes on with a value, or ends the reading with what is wrong. -/
def liftExcept (value : Except Fault α) : Reader α :=
  fun cursor => value.map (·, cursor)

def fail (trouble : Trouble) (span : Span) : Reader α :=
  throw ⟨trouble, span, none⟩

/-- The place the reading has come to. -/
def here : Reader Nat := do
  return (← get).place

/-- The stretch from a place on to where the reading is. -/
def since (start : Nat) : Reader Span := do
  return ⟨start, ← here⟩

/-- The next character. -/
def next? : Reader (Option Char) := do
  let cursor ← get
  return cursor.text[cursor.place]?

/-- The stretch of the next character. -/
def nextSpan : Reader Span := do
  let place ← here
  return ⟨place, place + 1⟩

/-- The empty stretch in front of the next character. -/
def point : Reader Span := do
  let place ← here
  return ⟨place, place⟩

/-- Passes over blanks and remarks from a place on. -/
def passFrom (text : Array Char) : Nat → Bool → Nat → Nat
  | 0, _, place => place
  | fuel + 1, inRemark, place =>
    match text[place]? with
    | none => place
    | some c =>
      if inRemark then passFrom text fuel (c ≠ '\n') (place + 1)
      else if Text.isBlank c then passFrom text fuel false (place + 1)
      else if c = '#' then passFrom text fuel true (place + 1)
      else place

/-- Passes over blanks and remarks where they count for nothing. -/
def pass : Reader Unit :=
  modify fun cursor =>
    if cursor.spaced then
      { cursor with place := passFrom cursor.text (cursor.text.size + 1) false cursor.place }
    else cursor

/-- Goes behind the next character; whether there is another one. -/
def advance : Reader Bool := do
  modify fun cursor => { cursor with place := min (cursor.place + 1) cursor.text.size }
  return (← next?).isSome

/-- Goes behind the next character and the blanks after it; whether there is another one. -/
def advancePassing : Reader Bool := do
  let _ ← advance
  pass
  return (← next?).isSome

/-- Takes a text where it stands up front, and tells whether it did. -/
def take (text : String) : Reader Bool := do
  let cursor ← get
  let chars := text.toList
  if (cursor.text.toList.drop cursor.place).take chars.length = chars then
    set { cursor with place := cursor.place + chars.length }
    return true
  else
    return false

/-- The character after the next one. -/
def second? : Reader (Option Char) := do
  let cursor ← get
  return cursor.text[cursor.place + 1]?

/-- The character after the next one, blanks and remarks left out. -/
def secondPassing? : Reader (Option Char) := do
  let cursor ← get
  let place := cursor.place + 1
  let place :=
    if cursor.spaced then passFrom cursor.text (cursor.text.size + 1) false place else place
  return cursor.text[place]?

/-- Takes characters that a test accepts, with the blanks after each; `taken` have been taken. -/
def takeWhile (test : Char → Bool) (passing : Bool) : Nat → List Char → Reader (List Char)
  | 0, taken => return taken
  | fuel + 1, taken => do
    match ← next? with
    | none => return taken
    | some c =>
      if test c then
        let _ ← if passing then advancePassing else advance
        takeWhile test passing fuel (taken ++ [c])
      else
        return taken

/-- As many steps as there can be characters. -/
def fuel : Reader Nat := do
  return (← get).text.size + 1

/-- A character with a meaning of its own, which an escape takes away. -/
def isMeta (c : Char) : Bool :=
  "\\.+*?()|[]\x7b\x7d^$#&-~".toList.contains c

/-- A character that may be escaped although that changes nothing. -/
def isEscapable (c : Char) : Bool :=
  c.toNat < 0x80 && !c.isAlphanum && c ≠ '<' && c ≠ '>'

/-- The value of a hexadecimal number, as far as it is that of a character. -/
def characterOf? (digits : List Char) : Option Char :=
  let digit (c : Char) : Nat :=
    if c.isDigit then c.toNat - 48 else if 'a' ≤ c then c.toNat - 87 else c.toNat - 55
  let value := digits.foldl (fun value c => min (value * 16 + digit c) 0x110000) 0
  if value < 0xD800 || (0xDFFF < value && value < 0x110000) then some (Char.ofNat value) else none

def isHex (c : Char) : Bool :=
  c.isDigit || ('a' ≤ c && c ≤ 'f') || ('A' ≤ c && c ≤ 'F')

/-- A number of a certain number of digits; `taken` have been taken. -/
def hexDigits : Nat → List Char → Reader (List Char)
  | 0, taken => return taken
  | count + 1, taken => do
    match ← next? with
    | none => fail .escapeUnfinished (← point)
    | some c =>
      unless isHex c do
        fail .hexDigit (← nextSpan)
      let more ← advancePassing
      if count ≠ 0 && !more then
        fail .escapeUnfinished (← point)
      hexDigits count (taken ++ [c])

/-- A character that is written as a number, after the backslash at `start`. -/
def hexEscape (start : Nat) (count : Nat) : Reader Atom := do
  unless ← advancePassing do
    fail .escapeUnfinished (← point)
  if (← next?) = some '\x7b' then
    let brace ← here
    let _ ← advancePassing
    let digits ← takeWhile (fun c => isHex c) true (← fuel) []
    let finish ← here
    match ← next? with
    | none => fail .escapeUnfinished (← since brace)
    | some c =>
      unless c = '\x7d' do
        fail .hexDigit (← nextSpan)
    let _ ← advancePassing
    if digits = [] then
      fail .hexEmpty (← since brace)
    match characterOf? digits with
    | none => fail .hexInvalid ⟨brace + 1, finish⟩
    | some c => return .character (← since start) c false
  else
    let first ← here
    let digits ← hexDigits count []
    match characterOf? digits with
    | none => fail .hexInvalid (← since first)
    | some c => return .character (← since start) c (count = 2)

/-- The property that a name between braces means. -/
def propertyOf (name : List Char) : Property :=
  let cut (separator : List Char) : Option (String × String) :=
    (Text.afterFirst? separator name).map fun value =>
      (String.ofList (name.take (name.length - separator.length - value.length)),
        String.ofList value)
  match cut ['!', '='], cut [':'], cut ['='] with
  | some (name, value), _, _ => .valued name value true
  | none, some (name, value), _ => .valued name value false
  | none, none, some (name, value) => .valued name value false
  | none, none, none => .named (String.ofList name)

/-- A property, after the backslash at `start`. -/
def propertyEscape (start : Nat) (negated : Bool) : Reader Atom := do
  unless ← advancePassing do
    fail .escapeUnfinished (← point)
  match ← next? with
  | some '\x7b' =>
    let _ ← advancePassing
    let name ← takeWhile (· ≠ '\x7d') true (← fuel) []
    if (← next?).isNone then
      fail .escapeUnfinished (← point)
    let _ ← advance
    return .property (← since start) (propertyOf name) negated
  | some '\\' => fail .propertyInvalid (← nextSpan)
  | some c =>
    let _ ← advancePassing
    return .property (← since start) (.named c.toString) negated
  | none => fail .escapeUnfinished (← point)

/-- The edge of a word that a name in braces asks for, where it does; the text may also be a number
of repetitions. -/
def wordSide? (start : Nat) : Reader (Option WordEdge) := do
  let isNameChar (c : Char) : Bool := c.isAlpha || c = '-'
  let before ← get
  let brace ← here
  unless ← advancePassing do
    fail .boundaryUnfinished (← since start)
  let first ← here
  if (← next?).any isNameChar then
    let name ← takeWhile isNameChar true (← fuel) []
    unless (← next?) = some '\x7d' do
      fail .boundaryUnclosed (← since brace)
    let finish ← here
    let _ ← advance
    match String.ofList name with
    | "start" => return some .start
    | "end" => return some .finish
    | "start-half" => return some .noWordBefore
    | "end-half" => return some .noWordAfter
    | _ => fail .boundaryUnknown ⟨first, finish⟩
  else
    set before
    return none

/-- What begins with a backslash. -/
def escape : Reader Atom := do
  let start ← here
  unless ← advance do
    fail .escapeUnfinished (← since start)
  match ← next? with
  | none => fail .escapeUnfinished (← since start)
  | some c =>
    if c.isDigit then
      fail .backreference ⟨start, start + 2⟩
    match c with
    | 'x' => hexEscape start 2
    | 'u' => hexEscape start 4
    | 'U' => hexEscape start 8
    | 'p' => propertyEscape start false
    | 'P' => propertyEscape start true
    | _ =>
      let _ ← advance
      let span : Span := ⟨start, start + 2⟩
      let character (number : Nat) : Atom := .character span (Char.ofNat number) false
      match c with
      | 'd' => return .shorthand span .digit false
      | 's' => return .shorthand span .blank false
      | 'w' => return .shorthand span .word false
      | 'D' => return .shorthand span .digit true
      | 'S' => return .shorthand span .blank true
      | 'W' => return .shorthand span .word true
      | 'a' => return character 0x07
      | 'f' => return character 0x0C
      | 't' => return character 0x09
      | 'n' => return character 0x0A
      | 'r' => return character 0x0D
      | 'v' => return character 0x0B
      | 'A' => return .anchor span .textStart
      | 'z' => return .anchor span .textEnd
      | 'b' =>
        if (← next?) = some '\x7b' then
          match ← wordSide? start with
          | some side => return .anchor (← since start) (.word side)
          | none => return .anchor span (.word .edge)
        else
          return .anchor span (.word .edge)
      | 'B' => return .anchor span (.word .noEdge)
      | '<' => return .anchor span (.word .start)
      | '>' => return .anchor span (.word .finish)
      | _ =>
        if isMeta c || isEscapable c then return .character span c false
        else fail .escapeUnknown span

/-- One character that stands for itself or has a meaning of its own. -/
def atom (c : Char) : Reader Atom := do
  let span ← nextSpan
  if c = '\\' then escape
  else
    let _ ← advance
    return match c with
      | '.' => .dot span
      | '^' => .anchor span .lineStart
      | '$' => .anchor span .lineEnd
      | c => .character span c false

/-! ## Classes between brackets -/

/-- One member of a class or one end of a range of them. -/
def classAtom (c : Char) : Reader Atom := do
  if c = '\\' then escape
  else
    let span ← nextSpan
    let _ ← advance
    return .character span c false

/-- The member of a class that an atom is. -/
def member : Atom → Reader ClassTree
  | .character span char _ => return .character span char
  | .shorthand span shorthand negated => return .shorthand span shorthand negated
  | .property span property negated => return .property span property negated
  | .dot span | .anchor span _ => fail .classEscape span

/-- The end of a range that an atom is. -/
def bound : Atom → Reader Char
  | .character _ char _ => return char
  | other => fail .classRangeBound other.span

/-- A member of a class or a range of them; `opening` is where the class begins. -/
def classRange (opening : Span) (c : Char) : Reader ClassTree := do
  let first ← classAtom c
  pass
  match ← next? with
  | none => fail .classUnclosed opening
  | some c =>
    let after ← secondPassing?
    if c ≠ '-' || after = some ']' || after = some '-' then member first
    else
      unless ← advancePassing do
        fail .classUnclosed opening
      let second ← classAtom ((← next?).getD ' ')
      let span : Span := ⟨first.span.start, second.span.finish⟩
      let low ← bound first
      let high ← bound second
      unless low ≤ high do
        fail .classRangeOrder span
      return .range span low high

/-- A named class of ASCII, where one stands up front; else nothing is taken. -/
def asciiClass? : Reader (Option ClassTree) := do
  let before ← get
  let start ← here
  if ← take "[:" then
    let negated ← take "^"
    let name ← takeWhile (· ≠ ':') false (← fuel) []
    if (Class.ascii? (String.ofList name)).isSome && (← take ":]") then
      return some (.ascii (← since start) (String.ofList name) negated)
  set before
  return none

/-- Dashes at the beginning of a class, which are members. -/
def dashes (start : Nat) : Nat → ClassTree → Reader ClassTree
  | 0, members => return members
  | fuel + 1, members => do
    if (← next?) = some '-' then
      let dash := ClassTree.character (← nextSpan) '-'
      unless ← advancePassing do
        fail .classUnclosed ⟨start, start⟩
      dashes start fuel (.both members dash)
    else
      return members

/-- The beginning of a class: whether it is negated, its first members, and where it stands. -/
def classOpening : Reader (Bool × ClassTree × Span) := do
  let start ← here
  unless ← advancePassing do
    fail .classUnclosed (← since start)
  let negated := (← next?) = some '^'
  if negated then
    unless ← advancePassing do
      fail .classUnclosed (← since start)
  let first ← here
  let members ← dashes start (← fuel) .none
  let isFirst := first = (← here)
  if isFirst && (← next?) = some ']' then
    let bracket := ClassTree.character (← nextSpan) ']'
    unless ← advancePassing do
      fail .classUnclosed (← since start)
    return (negated, bracket, ← since start)
  else
    return (negated, members, ← since start)

/-- What combines two sets up front, which is taken. -/
def combination? : Reader (Option Combination) := do
  if ← take "&&" then return some .intersection
  else if ← take "--" then return some .difference
  else if ← take "~~" then return some .symmetricDifference
  else return none

mutual

/-- A class between brackets, up to its closing bracket. -/
def bracket : Nat → Reader (Span × Bool × ClassTree)
  | 0 => do fail .classUnclosed (← point)
  | fuel + 1 => do
    let start ← here
    let (negated, members, opening) ← classOpening
    let inner ← classMembers fuel opening id members
    return (← since start, negated, inner)

/-- The members of a class up to its closing bracket. `before` combines what has been read up to the
last operator with the members after it. -/
def classMembers : Nat → Span → (ClassTree → ClassTree) → ClassTree → Reader ClassTree
  | 0, opening, _, _ => fail .classUnclosed opening
  | fuel + 1, opening, before, members => do
    pass
    match ← next? with
    | none => fail .classUnclosed opening
    | some ']' =>
      let _ ← advance
      return before members
    | some '[' =>
      match ← asciiClass? with
      | some named => classMembers fuel opening before (.both members named)
      | none =>
        let (span, negated, inner) ← bracket fuel
        classMembers fuel opening before (.both members (.bracket span negated inner))
    | some c =>
      match ← combination? with
      | some combination =>
        classMembers fuel opening (.combined combination (before members)) .none
      | none =>
        let range ← classRange opening c
        classMembers fuel opening before (.both members range)

end

/-! ## Repetitions and groups -/

/-- A number in decimal with blanks around it, or what is wrong with it. -/
def decimal : Reader (Except Fault Nat) := do
  let _ ← takeWhile Text.isBlank false (← fuel) []
  let start ← here
  let digits ← takeWhile Char.isDigit true (← fuel) []
  let span ← since start
  let _ ← takeWhile Text.isBlank true (← fuel) []
  let value := digits.foldl (fun value c => min (value * 10 + (c.toNat - 48)) 0x100000000) 0
  if digits = [] then return .error ⟨.countEmpty, span, none⟩
  else if value < 0x100000000 then return .ok value
  else return .error ⟨.numberInvalid, span, none⟩

/-- What is repeated: the last part, which must not be a change of modes. -/
def repeatable (parts : List Tree) : Reader (List Tree × Tree) := do
  match parts.getLast? with
  | none | some .empty | some (.modes ..) => fail .nothingToRepeat (← point)
  | some part => return (parts.dropLast, part)

/-- The part that is a repetition of another one up to here. -/
def repetition (part : Tree) (least : Nat) (most? : Option Nat) : Reader Tree := do
  let start := (part.span?.map Span.start).getD (← here)
  return .repeated (← since start) least most? part

/-- A repetition by one of the three signs. -/
def signRepetition (parts : List Tree) (least : Nat) (most? : Option Nat) :
    Reader (List Tree) := do
  let (before, part) ← repeatable parts
  let more ← advance
  if more && (← next?) = some '?' then
    let _ ← advance
  return before ++ [← repetition part least most?]

/-- A repetition by numbers in braces. -/
def countedRepetition (parts : List Tree) : Reader (List Tree) := do
  let start ← here
  let (before, part) ← repeatable parts
  unless ← advancePassing do
    fail .countUnclosed (← since start)
  let least ← decimal
  let (least, most?) ←
    match ← next? with
    | none => fail .countUnclosed (← since start)
    | some ',' =>
      unless ← advancePassing do
        fail .countUnclosed (← since start)
      if (← next?) = some '\x7d' then
        pure (← liftExcept least, none)
      else
        let least ← liftExcept least
        let most ← liftExcept (← decimal)
        pure (least, some most)
    | some _ =>
      let count ← liftExcept least
      pure (count, some count)
  unless (← next?) = some '\x7d' do
    fail .countUnclosed (← since start)
  let more ← advancePassing
  if more && (← next?) = some '?' then
    let _ ← advance
  if most?.any (· < least) then
    fail .countOrder (← since start)
  return before ++ [← repetition part least most?]

/-- The mode that a letter stands for. -/
def mode? (c : Char) : Option Mode :=
  match c with
  | 'i' => some .anyCase
  | 'm' => some .manyLines
  | 's' => some .dotTakesLines
  | 'U' => some .swappedGreed
  | 'u' => some .unicode
  | 'R' => some .returns
  | 'x' => some .spaced
  | _ => none

/-- Modes up to a colon or a closing parenthesis. `read` are those so far with where they stand, and
`minus?` is where the sign stands that negates the others. -/
def modes : Nat → List (Mode × Bool × Span) → Option Span → Bool → Reader Changes
  | 0, _, _, _ => do fail .flagMissing (← point)
  | fuel + 1, read, minus?, dangling => do
    match ← next? with
    | none => fail .flagMissing (← point)
    | some c =>
      let span ← nextSpan
      if c = ':' || c = ')' then
        match minus?, dangling with
        | some minus, true => fail .flagDangling minus
        | _, _ => return read.map fun entry => (entry.1, entry.2.1)
      else if c = '-' then
        match minus? with
        | some minus => throw ⟨.flagNegatedTwice, span, some minus⟩
        | none =>
          let _ ← advance
          modes fuel read (some span) true
      else
        match mode? c with
        | none => fail .flagUnknown span
        | some mode =>
          match read.find? fun entry => entry.1 = mode with
          | some (_, _, other) => throw ⟨.flagTwice, span, some other⟩
          | none =>
            let _ ← advance
            modes fuel (read ++ [(mode, minus?.isNone, span)]) minus? false

/-- A character that can stand in the name of a group. -/
def isNameChar (isFirst : Bool) (c : Char) : Bool :=
  let number := c.toNat
  c = '_' || (if c.toNat < 0x80 then c.isAlpha else Class.alphabetic.has number)
    || (!isFirst && (c = '.' || c = '[' || c = ']' || c.isDigit
      || (0x80 ≤ number && (Text.Category.of c = .decimalNumber
        || Text.Category.of c = .letterNumber || Text.Category.of c = .otherNumber))))

/-- The characters of a name up to its closing sign; `taken` have been taken. -/
def nameChars : Nat → List Char → Reader (List Char)
  | 0, taken => return taken
  | fuel + 1, taken => do
    match ← next? with
    | none => fail .nameUnfinished (← point)
    | some c =>
      if c = '>' then return taken
      else if isNameChar (taken = []) c then
        let _ ← advance
        nameChars fuel (taken ++ [c])
      else fail .nameInvalid (← nextSpan)

/-- The name of a group and its closing sign. No two groups have one name. -/
def groupName : Reader Unit := do
  let start ← here
  let name := String.ofList (← nameChars (← fuel) [])
  let span ← since start
  let _ ← advance
  if name = "" then
    fail .nameEmpty ⟨start, start⟩
  match (← get).names.lookup name with
  | some other => throw ⟨.nameTwice, span, some other⟩
  | none => modify fun cursor => { cursor with names := (name, span) :: cursor.names }

/-- The head of a group: modes for what is inside, or modes for what follows where the group ends
here. -/
def groupHead (opening : Span) : Reader (Changes ⊕ Changes) := do
  let _ ← advance
  pass
  for ahead in ["?=", "?!", "?<=", "?<!"] do
    if ← take ahead then
      fail .lookAround (← since opening.start)
  let inner ← point
  if ← take "?P<" then
    groupName
    return .inl []
  else if ← take "?<" then
    groupName
    return .inl []
  else if ← take "?" then
    if (← next?).isNone then
      fail .groupUnclosed opening
    let changes ← modes (← fuel) [] none false
    let last ← next?
    let _ ← advance
    if last = some ')' then
      if changes = [] then
        fail .nothingToRepeat inner
      return .inr changes
    else
      return .inl changes
  else
    return .inl []

mutual

/-- Parts that follow one another, up to the end of the group they stand in. `parts` have been read
since `start`, and `others` before signs of choice. -/
def parts : Nat → Option Span → Nat → Nat → List Tree → List Tree → Reader Tree
  | 0, _, _, _, _, _ => return .empty
  | fuel + 1, opening?, first, start, others, read => do
    pass
    let whole : Reader Tree := do
      let last := Tree.ofSequence (← since start) read
      if others.isEmpty then return last
      else return .choice (← since first) (others ++ [last])
    match ← next? with
    | none =>
      match opening? with
      | some opening => fail .groupUnclosed opening
      | none => whole
    | some c =>
      match c with
      | '(' =>
        let opening ← nextSpan
        let before := (← get).spaced
        match ← groupHead opening with
        | .inr changes =>
          let spaced := (Changes.of? changes .spaced).getD before
          modify fun cursor => { cursor with spaced }
          parts fuel opening? first start others
            (read ++ [.modes (← since opening.start) changes])
        | .inl changes =>
          let spaced := (Changes.of? changes .spaced).getD before
          modify fun cursor => { cursor with spaced }
          let inner ← group fuel opening
          modify fun cursor => { cursor with spaced := before }
          let _ ← advance
          parts fuel opening? first start others
            (read ++ [.group (← since opening.start) changes inner])
      | ')' =>
        match opening? with
        | some _ => whole
        | none => fail .groupUnopened (← nextSpan)
      | '|' =>
        let part := Tree.ofSequence (← since start) read
        let _ ← advance
        parts fuel opening? first (← here) (others ++ [part]) []
      | '[' =>
        let (span, negated, inner) ← bracket fuel
        parts fuel opening? first start others (read ++ [.bracket span negated inner])
      | '?' => parts fuel opening? first start others (← signRepetition read 0 (some 1))
      | '*' => parts fuel opening? first start others (← signRepetition read 0 none)
      | '+' => parts fuel opening? first start others (← signRepetition read 1 none)
      | '\x7b' => parts fuel opening? first start others (← countedRepetition read)
      | c => parts fuel opening? first start others (read ++ [(← atom c).tree])

/-- What is inside a group, up to its closing parenthesis, which is left. -/
def group : Nat → Span → Reader Tree
  | 0, opening => fail .groupUnclosed opening
  | fuel + 1, opening => do
    let start ← here
    parts fuel (some opening) start start [] []

end

end Reader

/-- The tree of an expression. -/
def Tree.ofText (text : List Char) : Except Fault Tree := do
  let cursor : Cursor := ⟨text.toArray, 0, false, []⟩
  let fuel := 3 * text.length + 8
  let (tree, _) ← (Reader.parts fuel none 0 0 [] []).run cursor
  match tree.tooDeep? depthLimit with
  | some span => throw ⟨.tooDeep, span, none⟩
  | none => return tree

end ChangelogSql.Regular
