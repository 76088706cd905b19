/-!
UTF-8 as a machine that takes one byte at a time. Decoding never fails: it cuts
a byte string into scalar values and *broken* pieces, where a broken piece is a
longest beginning of a well-formed sequence that the next byte does not
continue, or a single byte that begins none. Text made for people shows a
broken piece as the replacement character.
-/

namespace ChangelogSql

/-- Any bytes: the contents of a file, the text of a path, what a program writes. -/
abbrev Bytes := List UInt8

namespace Text.Utf8

/-- One cut of a byte string. -/
inductive Piece where
  | scalar (char : Char)
  | broken (bytes : Bytes)
  deriving DecidableEq

/-- A sequence that has begun: the bytes taken, the bits they carry, how many bytes are to come
after the next one, and the bounds of the next one. -/
structure Pending where
  taken : Bytes
  code : Nat
  after : Nat
  low : UInt8
  high : UInt8
  deriving DecidableEq

/-- The machine between two bytes: between sequences, or inside one. -/
abbrev State := Option Pending

/-- Takes a byte between sequences. The second byte of a three or four byte sequence is bounded
so that no overlong form, no surrogate and nothing above U+10FFFF is well formed. -/
def first (b : UInt8) : State × List Piece :=
  if b < 0x80 then (none, [.scalar (Char.ofNat b.toNat)])
  else if b < 0xC2 then (none, [.broken [b]])
  else if b < 0xE0 then (some ⟨[b], b.toNat - 0xC0, 0, 0x80, 0xBF⟩, [])
  else if b < 0xF0 then
    let low := if b = 0xE0 then 0xA0 else 0x80
    let high := if b = 0xED then 0x9F else 0xBF
    (some ⟨[b], b.toNat - 0xE0, 1, low, high⟩, [])
  else if b < 0xF5 then
    let low := if b = 0xF0 then 0x90 else 0x80
    let high := if b = 0xF4 then 0x8F else 0xBF
    (some ⟨[b], b.toNat - 0xF0, 2, low, high⟩, [])
  else (none, [.broken [b]])

/-- Takes a byte in any state. A byte that does not continue the sequence breaks it off and is
taken again from between sequences. -/
def step : State → UInt8 → State × List Piece
  | none, b => first b
  | some pending, b =>
    if pending.low ≤ b ∧ b ≤ pending.high then
      let code := pending.code * 64 + (b.toNat - 0x80)
      match pending.after with
      | 0 => (none, [.scalar (Char.ofNat code)])
      | after + 1 => (some ⟨pending.taken ++ [b], code, after, 0x80, 0xBF⟩, [])
    else
      let (state, pieces) := first b
      (state, .broken pending.taken :: pieces)

/-- What the end of the input leaves of an unfinished sequence. -/
def finish : State → List Piece
  | none => []
  | some pending => [.broken pending.taken]

/-- The cuts of a byte string, from a given state on. -/
def piecesFrom : State → Bytes → List Piece
  | state, [] => finish state
  | state, b :: rest =>
    let (next, pieces) := step state b
    pieces ++ piecesFrom next rest

/-- The cuts of a whole byte string. -/
def pieces (bytes : Bytes) : List Piece :=
  piecesFrom none bytes

/-- How a cut is shown: a broken piece as the replacement character. -/
def Piece.shown : Piece → Char
  | .scalar char => char
  | .broken _ => '\uFFFD'

/-- The text of any bytes, each broken piece shown as the replacement character. -/
def decodeLossy (bytes : Bytes) : List Char :=
  (pieces bytes).map Piece.shown

/-- The characters of well-formed bytes, and `none` for bytes with a broken piece. -/
def decode? (bytes : Bytes) : Option (List Char) :=
  (pieces bytes).mapM fun
    | .scalar char => some char
    | .broken _ => none

/-- The bytes of a text. -/
def encode (chars : List Char) : Bytes :=
  chars.flatMap String.utf8EncodeChar

end Text.Utf8

/-- The bytes of a text. -/
def Bytes.ofString (text : String) : Bytes :=
  Text.Utf8.encode text.toList

/-- The text that stands for any bytes where people read them. -/
def Bytes.shown (bytes : Bytes) : String :=
  String.ofList (Text.Utf8.decodeLossy bytes)

end ChangelogSql
