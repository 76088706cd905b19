import ChangelogSql.Text.Ascii

/-!
The digest by which a repository knows what it keeps: twenty bytes that are made
of a text in blocks of sixty-four, each of which stirs five words once more.
-/

namespace ChangelogSql.Repository.Digest

/-- The five words that are stirred. -/
structure Words where
  a : UInt32
  b : UInt32
  c : UInt32
  d : UInt32
  e : UInt32

/-- The words before the first block. -/
def Words.start : Words :=
  ⟨0x67452301, 0xEFCDAB89, 0x98BADCFE, 0x10325476, 0xC3D2E1F0⟩

def Words.add (words other : Words) : Words :=
  ⟨words.a + other.a, words.b + other.b, words.c + other.c, words.d + other.d,
    words.e + other.e⟩

/-- A word turned to the left. -/
def turned (word count : UInt32) : UInt32 :=
  (word <<< count) ||| (word >>> (32 - count))

/-- The bytes of a number, the highest first. -/
def bigEndian : Nat → Nat → Bytes
  | 0, _ => []
  | width + 1, number => bigEndian width (number / 256) ++ [UInt8.ofNat (number % 256)]

/-- A text with an end mark, filled up to whole blocks, the last eight bytes of which tell how many
bits it has. -/
def padded (text : Bytes) : Bytes :=
  let size := text.length
  text ++ 0x80 :: List.replicate ((119 - size % 64) % 64) 0 ++ bigEndian 8 (8 * size)

/-- The word that four bytes form. -/
def wordAt (bytes : ByteArray) (place : Nat) : UInt32 :=
  let byte (offset : Nat) : UInt32 := ((bytes[place + offset]?).getD 0).toUInt32
  (byte 0 <<< 24) ||| (byte 1 <<< 16) ||| (byte 2 <<< 8) ||| byte 3

/-- The words of a block, and those that follow from them. -/
def schedule (bytes : ByteArray) (place : Nat) : Array UInt32 :=
  let own := (Array.range 16).map fun index => wordAt bytes (place + 4 * index)
  (List.range 64).foldl
    (fun words index =>
      let word (offset : Nat) : UInt32 := (words[index + offset]?).getD 0
      words.push (turned (word 13 ^^^ word 8 ^^^ word 2 ^^^ word 0) 1))
    own

/-- One of the eighty steps in which a block stirs the words. -/
def stirred (words : Words) (index : Nat) (word : UInt32) : Words :=
  let ⟨a, b, c, d, e⟩ := words
  let (mixed, constant) : UInt32 × UInt32 :=
    if index < 20 then ((b &&& c) ||| (~~~b &&& d), 0x5A827999)
    else if index < 40 then (b ^^^ c ^^^ d, 0x6ED9EBA1)
    else if index < 60 then ((b &&& c) ||| (b &&& d) ||| (c &&& d), 0x8F1BBCDC)
    else (b ^^^ c ^^^ d, 0xCA62C1D6)
  ⟨turned a 5 + mixed + e + constant + word, a, turned b 30, c, d⟩

/-- The words after a block. -/
def after (words : Words) (bytes : ByteArray) (place : Nat) : Words :=
  let scheduled := schedule bytes place
  words.add <| (List.range 80).foldl
    (fun words index => stirred words index ((scheduled[index]?).getD 0)) words

/-- The digest of a text. -/
def ofBytes (text : Bytes) : Bytes :=
  let bytes : ByteArray := ⟨(padded text).toArray⟩
  let words := (List.range (bytes.size / 64)).foldl
    (fun words block => after words bytes (64 * block)) Words.start
  [words.a, words.b, words.c, words.d, words.e].flatMap fun word => bigEndian 4 word.toNat

def hexDigit (value : UInt8) : UInt8 :=
  if value < 10 then value + 48 else value + 87

/-- Bytes in hexadecimal digits. -/
def hex (bytes : Bytes) : Bytes :=
  bytes.flatMap fun b => [hexDigit (b / 16), hexDigit (b % 16)]

/-- The bytes that hexadecimal digits write. -/
def ofHex : Bytes → Bytes
  | high :: low :: rest =>
    let value (b : UInt8) : Nat := (Text.Ascii.hexDigit? b).getD 0
    UInt8.ofNat (16 * value high + value low) :: ofHex rest
  | _ => []

end ChangelogSql.Repository.Digest
