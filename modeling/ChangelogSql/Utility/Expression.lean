import ChangelogSql.Text.Ascii
import ChangelogSql.Text.Search

/-!
Regular expressions as programs take them, in their basic and in their extended
form: what they consist of, and how they are read. In the basic form the signs
of groups, alternatives and bounds have a backslash in front, and a sign that
could have no meaning where it stands means itself.
-/

namespace ChangelogSql.Utility.Expression

open Text (ascii)

/-- A member of a bracketed set. -/
inductive Member where
  | span (low high : UInt8)
  | kind (kind : Text.Ascii.Kind)
  deriving DecidableEq

/-- A byte out of many. -/
structure ByteSet where
  isNegated : Bool
  members : List Member
  deriving DecidableEq

/-- A byte is in a set. -/
def ByteSet.contains (set : ByteSet) (b : UInt8) : Bool :=
  set.isNegated != set.members.any fun
    | .span low high => low ≤ b && b ≤ high
    | .kind kind => kind.holds b

/-- A byte, small or capital, is in a set. -/
def ByteSet.containsEither (set : ByteSet) (b : UInt8) : Bool :=
  let has (b : UInt8) : Bool := (ByteSet.mk false set.members).contains b
  set.isNegated != (has (Text.Ascii.lower b) || has (Text.Ascii.upper b))

/-- What must be so between two bytes. -/
inductive Anchor where
  | lineStart
  | lineEnd
  | textStart
  | textEnd
  | wordStart
  | wordEnd
  | boundary
  | noBoundary
  deriving DecidableEq

/-- A regular expression. -/
inductive Tree where
  | empty
  | set (set : ByteSet)
  | anchor (anchor : Anchor)
  | group (number : Nat) (tree : Tree)
  | reference (number : Nat)
  | sequence (first second : Tree)
  | either (first second : Tree)
  | times (least : Nat) (most : Option Nat) (tree : Tree)

/-- Why a text is no regular expression. -/
inductive Fault where
  | badClass
  | trailingBackslash
  | badReference
  | openBracket
  | openGroup
  | openBound
  | badBound
  | badRange
  | badRepetition
  | tooBig
  | closedGroup
  deriving DecidableEq

def Fault.message : Fault → String
  | .badClass => "Invalid character class name"
  | .trailingBackslash => "Trailing backslash"
  | .badReference => "Invalid back reference"
  | .openBracket => "Unmatched [, [^, [:, [., or [="
  | .openGroup => "Unmatched ( or \\("
  | .openBound => "Unmatched \\\x7b"
  | .badBound => "Invalid content of \\\x7b\\\x7d"
  | .badRange => "Invalid range end"
  | .badRepetition => "Invalid preceding regular expression"
  | .tooBig => "Regular expression too big"
  | .closedGroup => "Unmatched ) or \\)"

/-- The form in which expressions are written. -/
structure Form where
  isExtended : Bool
  /-- A sign of repetition with nothing in front is refused in the extended form; or else it means
  nothing. -/
  isStrict : Bool
  /-- A brace that begins no bound, or a parenthesis that closes no group, means itself. -/
  isLenient : Bool

/-- The basic form. -/
def basic : Form := ⟨false, true, false⟩

/-- The extended form. -/
def extended : Form := ⟨true, true, false⟩

/-- The extended form as it is taken where lines are selected. -/
def selecting : Form := ⟨true, false, true⟩

/-- Any byte at all. -/
def anyByte : ByteSet := ⟨true, []⟩

def only (b : UInt8) : ByteSet := ⟨false, [.span b b]⟩

/-- The bytes of words. -/
def wordMembers : List Member := [.kind .alnum, .span (ascii '_') (ascii '_')]

/-- Signs as they are read. -/
inductive Token where
  | set (set : ByteSet)
  | anchor (anchor : Anchor)
  | reference (number : Nat)
  | bracket
  | star
  | plus
  | perhaps
  | bound
  | opened
  | closed
  | alternative
  | ended
  deriving DecidableEq

/-- What is read, and where. -/
structure Cursor where
  rest : Bytes
  /-- Nothing stands before it, or only what begins a group or an alternative. -/
  atStart : Bool
  groups : Nat
  /-- The groups that are complete. -/
  complete : List Nat
  form : Form

/-- A step of reading. -/
abbrev Reader (α : Type) := ExceptT Fault (StateM Cursor) α

/-- What a letter behind a backslash means besides itself. -/
def special? (b : UInt8) : Option Token :=
  match Char.ofNat b.toNat with
  | 'w' => some (.set ⟨false, wordMembers⟩)
  | 'W' => some (.set ⟨true, wordMembers⟩)
  | 's' => some (.set ⟨false, [.kind .space]⟩)
  | 'S' => some (.set ⟨true, [.kind .space]⟩)
  | 'b' => some (.anchor .boundary)
  | 'B' => some (.anchor .noBoundary)
  | '<' => some (.anchor .wordStart)
  | '>' => some (.anchor .wordEnd)
  | '\x60' => some (.anchor .textStart)
  | '\'' => some (.anchor .textEnd)
  | _ => none

/-- The sign that a text begins with, and how many bytes it takes. -/
def token (cursor : Cursor) : Except Fault (Token × Nat) :=
  let isExtended := cursor.form.isExtended
  match cursor.rest with
  | [] => .ok (.ended, 0)
  | b :: rest =>
    let plain : Except Fault (Token × Nat) := .ok (.set (only b), 1)
    match Char.ofNat b.toNat with
    | '\\' =>
      match rest with
      | [] => .error .trailingBackslash
      | next :: _ =>
        match special? next with
        | some token => .ok (token, 2)
        | none =>
          let c := Char.ofNat next.toNat
          if '1' ≤ c && c ≤ '9' then .ok (.reference (next.toNat - 48), 2)
          else if isExtended then .ok (.set (only next), 2)
          else
            match c with
            | '(' => .ok (.opened, 2)
            | ')' => .ok (.closed, 2)
            | '|' => .ok (.alternative, 2)
            | '+' => .ok (.plus, 2)
            | '?' => .ok (.perhaps, 2)
            | '\x7b' => .ok (.bound, 2)
            | _ => .ok (.set (only next), 2)
    | '.' => .ok (.set anyByte, 1)
    | '[' => .ok (.bracket, 1)
    | '*' => .ok (.star, 1)
    | '^' => if isExtended || cursor.atStart then .ok (.anchor .lineStart, 1) else plain
    | '$' =>
      let endsHere :=
        isExtended ||
          match rest with
          | [] => true
          | 0x5C :: next :: _ => next = ascii ')' || next = ascii '|'
          | _ => false
      if endsHere then .ok (.anchor .lineEnd, 1) else plain
    | '(' => if isExtended then .ok (.opened, 1) else plain
    | ')' => if isExtended then .ok (.closed, 1) else plain
    | '|' => if isExtended then .ok (.alternative, 1) else plain
    | '+' => if isExtended then .ok (.plus, 1) else plain
    | '?' => if isExtended then .ok (.perhaps, 1) else plain
    | '\x7b' => if isExtended then .ok (.bound, 1) else plain
    | _ => plain

/-- The sign that comes next. -/
def peek : Reader (Token × Nat) := do
  match token (← get) with
  | .ok found => return found
  | .error fault => throw fault

/-- Goes on behind some bytes. -/
def advance (count : Nat) (atStart : Bool) : Reader Unit :=
  modify fun cursor => { cursor with rest := cursor.rest.drop count, atStart }

/-- What stands between a bracket with a sign and the same sign with a bracket. -/
def named? (sign : UInt8) (bytes : Bytes) : Option (Bytes × Bytes) :=
  let rec go : Nat → Bytes → Bytes → Option (Bytes × Bytes)
    | 0, _, _ => none
    | fuel + 1, before, bytes =>
      match bytes with
      | b :: c :: rest =>
        if b = sign && c = ascii ']' then some (before.reverse, rest)
        else go fuel (b :: before) (c :: rest)
      | _ => none
  go (bytes.length + 1) [] bytes

/-- One end of a range, or a kind of bytes. -/
inductive Piece where
  | byte (b : UInt8)
  | kind (kind : Text.Ascii.Kind)

/-- The piece that a set goes on with. -/
def piece (bytes : Bytes) : Except Fault (Piece × Bytes) :=
  match bytes with
  | [] => .error .openBracket
  | 0x5B :: sign :: rest =>
    if sign = ascii ':' then
      match named? sign rest with
      | none => .error .openBracket
      | some (name, rest) =>
        match Text.Ascii.kinds.find? fun entry => Bytes.ofString entry.1 = name with
        | some (_, kind) => .ok (.kind kind, rest)
        | none => .error .badClass
    else if sign = ascii '.' || sign = ascii '=' then
      match named? sign rest with
      | some ([b], rest) => .ok (.byte b, rest)
      | some _ => .error .badClass
      | none => .error .openBracket
    else .ok (.byte 0x5B, sign :: rest)
  | b :: rest => .ok (.byte b, rest)

/-- The members of a set up to its closing bracket. A closing bracket that comes first is a
member. -/
def members : Nat → Bool → Bytes → Except Fault (List Member × Bytes)
  | 0, _, _ => .error .openBracket
  | fuel + 1, isFirst, bytes => do
    match bytes, isFirst with
    | 0x5D :: rest, false => return ([], rest)
    | bytes, _ =>
      let (low, rest) ← piece bytes
      match rest with
      | 0x2D :: next :: further =>
        if next = ascii ']' then
          let (others, rest) ← members fuel false rest
          match low with
          | .byte b => return (.span b b :: others, rest)
          | .kind kind => return (.kind kind :: others, rest)
        else
          let (high, rest) ← piece (next :: further)
          match low, high with
          | .byte low, .byte high =>
            if high < low then throw .badRange
            let (others, rest) ← members fuel false rest
            return (.span low high :: others, rest)
          | _, _ => throw .badRange
      | rest =>
        let (others, rest) ← members fuel false rest
        match low with
        | .byte b => return (.span b b :: others, rest)
        | .kind kind => return (.kind kind :: others, rest)

/-- A bracketed set behind its opening bracket. -/
def bracketed : Reader ByteSet := do
  let rest := (← get).rest
  let isNegated := rest.head? = some (ascii '^')
  let rest := if isNegated then rest.drop 1 else rest
  match members (rest.length + 1) true rest with
  | .error fault => throw fault
  | .ok (members, rest) =>
    modify ({ · with rest, atStart := false })
    return ⟨isNegated, members⟩

/-- How often something can be repeated. -/
def repetitionLimit : Nat := 32767

/-- The bounds behind a brace, and what follows them. -/
def bounds? (isExtended : Bool) (bytes : Bytes) : Except Fault (Nat × Option Nat × Bytes) :=
  let number (bytes : Bytes) : Option Nat × Bytes :=
    let digits := bytes.takeWhile Text.Ascii.isDigit
    (if digits = [] then none else some (Text.Ascii.value 10 digits), bytes.drop digits.length)
  let (least?, rest) := number bytes
  let close (least : Nat) (most : Option Nat) (rest : Bytes) :
      Except Fault (Nat × Option Nat × Bytes) :=
    let after? : Option Bytes :=
      match isExtended, rest with
      | true, 0x7D :: rest => some rest
      | false, 0x5C :: 0x7D :: rest => some rest
      | _, _ => none
    match after? with
    | some rest =>
      if most.any (· < least) then .error .badBound
      else if repetitionLimit < most.getD least then .error .tooBig
      else .ok (least, most, rest)
    | none => refuse rest
  match rest with
  | 0x2C :: rest =>
    let (most?, rest) := number rest
    close (least?.getD 0) most? rest
  | rest =>
    match least? with
    | some least => close least (some least) rest
    | none => refuse rest
where
  /-- What is wrong with bounds that do not go on as they should. -/
  refuse (rest : Bytes) : Except Fault (Nat × Option Nat × Bytes) :=
    let closing := Bytes.ofString (if isExtended then "\x7d" else "\\\x7d")
    if rest.contains (ascii ',') || Text.occursIn closing rest then .error .badBound
    else .error .openBound

/-- A repetition of a tree, unless it can only be nothing. -/
def repeated (least : Nat) (most : Option Nat) (tree : Tree) : Tree :=
  if most = some 0 then .empty else .times least most tree

mutual

/-- Alternatives. -/
def readAlternatives : Nat → Nat → Reader Tree
  | 0, _ => throw .tooBig
  | fuel + 1, depth => do
    let first ← readBranch fuel depth .empty
    match ← peek with
    | (.alternative, count) =>
      advance count true
      return .either first (← readAlternatives fuel depth)
    | _ => return first

/-- Expressions one behind the other; `before` has been read. -/
def readBranch : Nat → Nat → Tree → Reader Tree
  | 0, _, _ => throw .tooBig
  | fuel + 1, depth, before => do
    match ← peek with
    | (.ended, _) | (.alternative, _) => return before
    | (.closed, count) =>
      if 0 < depth then return before
      else if (← get).form.isLenient then
        advance count false
        readBranch fuel depth (.sequence before (.set (only (ascii ')'))))
      else throw .closedGroup
    | _ =>
      let next ← readUnit fuel depth
      let tree :=
        match before with
        | .empty => next
        | before => .sequence before next
      readBranch fuel depth tree

/-- An expression with its repetitions. -/
def readUnit : Nat → Nat → Reader Tree
  | 0, _ => throw .tooBig
  | fuel + 1, depth => do
    let (token, count) ← peek
    let form := (← get).form
    let signs := (← get).rest.take count
    let literal (b : UInt8) : Reader Tree := do
      advance count false
      readRepetitions fuel (.set (only b))
    match token with
    | .set set =>
      advance count false
      readRepetitions fuel (.set set)
    | .anchor anchor =>
      advance count false
      return .anchor anchor
    | .reference number =>
      if !(← get).complete.contains number then throw .badReference
      advance count false
      readRepetitions fuel (.reference number)
    | .bracket =>
      advance count false
      let set ← bracketed
      readRepetitions fuel (.set set)
    | .opened =>
      let number := (← get).groups + 1
      modify fun cursor => { cursor with groups := number }
      advance count true
      let inner ← readAlternatives fuel (depth + 1)
      match ← peek with
      | (.closed, count) =>
        advance count false
        modify fun cursor => { cursor with complete := number :: cursor.complete }
        readRepetitions fuel (.group number inner)
      | _ => throw .openGroup
    | .star | .plus | .perhaps | .bound =>
      if form.isExtended then
        if form.isStrict then throw .badRepetition
        else if token = .bound then literal (ascii '\x7b')
        else
          advance count false
          return .empty
      else if token = .bound then throw .badRepetition
      else literal (signs.getLast?.getD (ascii '*'))
    | _ => return .empty

/-- The repetitions of a tree. In the basic form some of them cannot follow others. -/
def readRepetitions : Nat → Tree → Reader Tree
  | 0, _ => throw .tooBig
  | fuel + 1, tree => do
    let (token, count) ← peek
    let isExtended := (← get).form.isExtended
    let goOn (tree : Tree) : Reader Tree := do
      let (next, _) ← peek
      if !isExtended && (next = .star || next = .bound) then throw .badRepetition
      readRepetitions fuel tree
    match token with
    | .star =>
      advance count false
      goOn (repeated 0 none tree)
    | .plus =>
      advance count false
      goOn (repeated 1 none tree)
    | .perhaps =>
      advance count false
      goOn (repeated 0 (some 1) tree)
    | .bound =>
      let cursor ← get
      match bounds? isExtended (cursor.rest.drop count) with
      | .ok (least, most, rest) =>
        modify ({ · with rest, atStart := false })
        goOn (repeated least most tree)
      | .error fault =>
        if cursor.form.isLenient && fault ≠ .tooBig then
          advance count false
          return .sequence tree (.set (only (ascii '\x7b')))
        else throw fault
    | _ => return tree

end

/-- A tree that was read, and how many groups it has. -/
structure Whole where
  tree : Tree
  groups : Nat

/-- The expression that a text is. -/
def ofBytes (form : Form) (text : Bytes) : Except Fault Whole :=
  let reader : Reader Tree := readAlternatives (4 * text.length + 16) 0
  match reader.run ⟨text, true, 0, [], form⟩ with
  | (.ok tree, cursor) => .ok ⟨tree, cursor.groups⟩
  | (.error fault, _) => .error fault

end ChangelogSql.Utility.Expression
