import ChangelogSql.Text.Utf8

/-!
Plain text out of bytes meant for a terminal. A machine takes the bytes one at a
time and lets through printable characters and line feeds only: escape
sequences, whatever state they break off in, and all other control characters
leave nothing.

Text without its styles, as it is printed where no colours are wanted, comes of
the same states: escape sequences and control characters are left out, blanks
and line ends stay. A blank that takes effect inside a sequence lets the text
after it through up to the next control character; with that the sequence goes on.
-/

namespace ChangelogSql.Text.Terminal

/-- Where the machine stands between two bytes. Outside any sequence it also knows how far the
character at hand has come. -/
inductive State where
  | ground (char : Utf8.State)
  | escape
  | escapeIntermediate
  | controlEntry
  | controlParameter
  | controlIntermediate
  | controlIgnored
  | deviceEntry
  | deviceParameter
  | deviceIntermediate
  | deviceData
  | string
  | command
  deriving DecidableEq

/-- Outside any sequence, between characters. -/
def State.start : State :=
  .ground none

/-- A control character: none of them can be seen. -/
def isControl (c : Char) : Bool :=
  c.toNat < 0x20 || (0x80 ≤ c.toNat && c.toNat < 0xA0)

/-- What is let through of a cut of the text: a printable character or a line feed, and the
replacement character for a broken piece, unless that is one byte of the range in which terminals
have further controls. -/
def kept : Utf8.Piece → List Char
  | .scalar c => if isControl c && c ≠ '\n' then [] else [c]
  | .broken [b] => if 0x80 ≤ b && b < 0xA0 then [] else ['\uFFFD']
  | .broken _ => ['\uFFFD']

/-- A control character that takes effect inside a sequence without ending it. -/
def takesEffect (b : UInt8) : Bool :=
  b < 0x20 && b ≠ 0x18 && b ≠ 0x1A && b ≠ 0x1B

/-- What a control character that takes effect lets through. -/
def effect (b : UInt8) : List Char :=
  if b = 0x0A then ['\n'] else []

/-- The bytes that end or begin a sequence wherever they come; any other leaves the state as it
is. -/
def anywhere (state : State) (b : UInt8) : State :=
  if b = 0x18 || b = 0x1A then .start
  else if b = 0x1B then .escape
  else state

/-- The bytes `0x30` to `0x3F`, which can stand for parameters. -/
def isParameter (b : UInt8) : Bool :=
  0x30 ≤ b && b ≤ 0x3F

def isIntermediate (b : UInt8) : Bool :=
  0x20 ≤ b && b ≤ 0x2F

/-- The bytes that end a control or device sequence's head. -/
def isFinal (b : UInt8) : Bool :=
  0x40 ≤ b && b ≤ 0x7E

/-- Right after an escape character. -/
def afterEscape (b : UInt8) : State :=
  if isIntermediate b then .escapeIntermediate
  else if b = 0x50 then .deviceEntry
  else if b = 0x58 || b = 0x5E || b = 0x5F then .string
  else if b = 0x5B then .controlEntry
  else if b = 0x5D then .command
  else if (0x30 ≤ b && b ≤ 0x7E) || b = 0x18 || b = 0x1A then .start
  else .escape

/-- Inside the head of a control sequence; `parameter` is the state a parameter byte leads to. -/
def inControl (state parameter : State) (b : UInt8) : State :=
  if isFinal b then .start
  else if isIntermediate b then .controlIntermediate
  else if isParameter b then parameter
  else anywhere state b

/-- Inside the head of a device sequence; `parameter` is the state a parameter byte leads to. -/
def inDevice (state parameter : State) (b : UInt8) : State :=
  if isFinal b then .deviceData
  else if isIntermediate b then .deviceIntermediate
  else if isParameter b then parameter
  else anywhere state b

/-- The state after a byte inside a sequence that takes no effect of its own. -/
def inSequence (state : State) (b : UInt8) : State :=
  match state with
  | .ground _ => state
  | .escape => afterEscape b
  | .escapeIntermediate =>
    if isIntermediate b then state
    else if 0x30 ≤ b && b ≤ 0x7E then .start
    else anywhere state b
  | .controlEntry => inControl state .controlParameter b
  | .controlParameter => inControl state (if b ≤ 0x3B then state else .controlIgnored) b
  | .controlIntermediate => inControl state .controlIgnored b
  | .controlIgnored =>
    if isFinal b then .start
    else if isIntermediate b || isParameter b then state
    else anywhere state b
  | .deviceEntry => inDevice state .deviceParameter b
  | .deviceParameter => inDevice state (if b ≤ 0x3B then state else .string) b
  | .deviceIntermediate => inDevice state .string b
  | .deviceData => if b = 0x9C then .start else anywhere state b
  | .string => anywhere state b
  | .command => if b = 0x07 then .start else anywhere state b

/-- Control characters take effect in this state. -/
def heedsControls : State → Bool
  | .escape | .escapeIntermediate | .controlEntry | .controlParameter | .controlIntermediate
  | .controlIgnored => true
  | _ => false

/-- Takes one byte: the next state, and what is let through. -/
def step (state : State) (b : UInt8) : State × List Char :=
  match state with
  | .ground char =>
    if b = 0x1B then (.escape, (Utf8.finish char).flatMap kept)
    else
      let (next, pieces) := Utf8.step char b
      (.ground next, pieces.flatMap kept)
  | _ =>
    if heedsControls state && takesEffect b then (state, effect b) else (inSequence state b, [])

/-- What is let through of the bytes to come. A character the end of the input breaks off is
dropped. -/
def strippedFrom : State → Bytes → List Char
  | _, [] => []
  | state, b :: rest =>
    let (next, shown) := step state b
    shown ++ strippedFrom next rest

/-- The printable text of a byte string. -/
def stripped (bytes : Bytes) : List Char :=
  strippedFrom .start bytes

/-- The text that is kept of what a program wrote. -/
def captured (bytes : Bytes) : String :=
  Bytes.shown (Utf8.encode (stripped bytes))

end ChangelogSql.Text.Terminal

namespace ChangelogSql.Text.Unstyled

open Terminal (State)

/-- A control character that is a blank. -/
def isControlBlank (c : Char) : Bool :=
  c = '\t' || c = '\n' || c = '\r' || c.toNat = 0x0C

/-- A character that is printed outside of sequences. -/
def isPrinted (c : Char) : Bool :=
  isControlBlank c || (0x20 ≤ c.toNat && c.toNat ≠ 0x7F)

/-- The state after a character. A character beyond ASCII changes nothing in a sequence, unless one
of its bytes ends a string. -/
def next (state : State) (c : Char) : State :=
  if c.toNat < 0x80 then
    match state with
    | .ground _ => Terminal.anywhere state c.toUInt8
    | _ => Terminal.inSequence state c.toUInt8
  else
    match state with
    | .string | .deviceData =>
      if (String.utf8EncodeChar c).contains 0x9C then .start else state
    | _ => state

/-- What is printed of the characters to come. While `running` is set they are taken as if they
stood outside of any sequence, whatever the state is. -/
def printedFrom : State → Bool → List Char → List Char
  | _, _, [] => []
  | state, running, c :: rest =>
    if running && isPrinted c then
      c :: printedFrom (if c.toNat < 0x80 then state else .start) true rest
    else
      match state with
      | .ground _ =>
        if isPrinted c then c :: printedFrom .start true rest
        else printedFrom (next state c) false rest
      | _ =>
        if Terminal.heedsControls state && isControlBlank c then c :: printedFrom state true rest
        else printedFrom (if c.toNat = 0x1B then .escape else next state c) false rest

/-- A text without its styles. -/
def ofText (text : String) : String :=
  String.ofList (printedFrom .start false text.toList)

end ChangelogSql.Text.Unstyled
