import ChangelogSql.Numeral.Directive
import ChangelogSql.Utility.Input
import ChangelogSql.Utility.Option

/-!
Bytes as numbers, in rows with their places in front; and bytes as letters that
can be sent where other bytes cannot, and back.
-/

namespace ChangelogSql.Utility.Dump

open Text (ascii)
open Files Kernel
open Tool

/-- What some bytes are shown as. -/
inductive Reading where
  | octal
  | signed
  | unsigned
  | hexadecimal
  /-- As characters, with sequences for those that are not seen. -/
  | character
  /-- As characters, with names for those that are not seen. -/
  | named
  deriving DecidableEq

/-- One way to show bytes: as what, how many at a time, and whether the text stands behind them. -/
structure Manner where
  reading : Reading
  size : Nat
  hasText : Bool

/-- How many columns a number takes at most. -/
def Manner.width (manner : Manner) : Nat :=
  let most := Numeral.twoTo (8 * manner.size)
  let digits (base number : Nat) : Nat := (Numeral.Directive.digitsOf base number).length
  match manner.reading with
  | .octal => digits 8 (most - 1)
  | .signed => digits 10 (most / 2) + 1
  | .unsigned => digits 10 (most - 1)
  | .hexadecimal => 2 * manner.size
  | .character | .named => 3

/-- The names of the bytes that are not seen. -/
def byteNames : List String :=
  ["nul", "soh", "stx", "etx", "eot", "enq", "ack", "bel", "bs", "ht", "nl", "vt", "ff", "cr", "so",
    "si", "dle", "dc1", "dc2", "dc3", "dc4", "nak", "syn", "etb", "can", "em", "sub", "esc", "fs",
    "gs", "rs", "us", "sp"]

/-- A text with zeros in front, as wide as it has to be. -/
def filled (width : Nat) (text : Bytes) : Bytes :=
  List.replicate (width - text.length) (ascii '0') ++ text

/-- A byte as a character, with a sequence where it is not seen. -/
def characterText (b : UInt8) : Bytes :=
  let sequences : List (UInt8 × String) :=
    [(0, "\\0"), (7, "\\a"), (8, "\\b"), (9, "\\t"), (10, "\\n"), (11, "\\v"), (12, "\\f"),
      (13, "\\r")]
  match sequences.lookup b with
  | some text => Bytes.ofString text
  | none =>
    if Quotation.isVisible b then [b]
    else filled 3 (Numeral.Directive.digitsOf 8 b.toNat)

/-- Some bytes as they are shown. -/
def Manner.text (manner : Manner) (isBig : Bool) (bytes : Bytes) : Bytes :=
  let bytes := bytes ++ List.replicate (manner.size - bytes.length) 0
  let value := (if isBig then bytes else bytes.reverse).foldl (fun n b => 256 * n + b.toNat) 0
  let first := bytes.headD 0
  match manner.reading with
  | .octal => filled manner.width (Numeral.Directive.digitsOf 8 value)
  | .hexadecimal => filled manner.width (Numeral.Directive.digitsOf 16 value)
  | .unsigned => Text.Ascii.ofNat value
  | .signed =>
    let most := Numeral.twoTo (8 * manner.size)
    Text.Ascii.ofInt (if most / 2 ≤ value then (value : Int) - (most : Int) else value)
  | .character => characterText first
  | .named =>
    let low := first % 128
    match byteNames[low.toNat]? with
    | some name => Bytes.ofString name
    | none => if low = 127 then Bytes.ofString "del" else [low]

/-- How rows are made. -/
structure Table where
  manners : List Manner
  /-- How many bytes stand in a row. -/
  row : Nat
  /-- The base of the places in front, if there are any, and how wide they are. -/
  places? : Option (Nat × Nat)
  isBig : Bool
  showsAll : Bool

namespace Table

/-- How wide all rows are, without the places. -/
def width (table : Table) : Nat :=
  (table.manners.map fun manner => (manner.width + 1) * (table.row / manner.size)).foldl max 0

/-- A place as it stands in front of a row. -/
def place (table : Table) (offset : Nat) : Bytes :=
  match table.places? with
  | none => []
  | some (base, width) => filled width (Numeral.Directive.digitsOf base offset)

/-- Numbers with blanks in front, which are spread so that rows of all kinds are as wide. -/
def spread (width blanks fields : Nat) : Nat → List Bytes → Bytes
  | _, [] => []
  | left, text :: rest =>
    let index := rest.length
    let taken := fields - (index + 1)
    let next := blanks * (fields - taken - 1) / fields
    let columns := left - next + width
    List.replicate (columns - text.length) 0x20 ++ text ++ spread width blanks fields next rest

/-- The fields of a row in one manner, and the text behind them where it is shown. -/
def fields (table : Table) (manner : Manner) (bytes : Bytes) : Bytes :=
  let count := table.row / manner.size
  let used := (bytes.length + manner.size - 1) / manner.size
  let blanks := table.width - manner.width * count
  let texts := (List.range used).map fun index =>
    manner.text table.isBig ((bytes.drop (manner.size * index)).take manner.size)
  let missing := count - used
  let all := spread manner.width blanks count blanks (texts ++ List.replicate missing [])
  let behind := missing * manner.width + blanks * missing / count
  let shown := all.take (all.length - behind)
  if manner.hasText then
    let visible (b : UInt8) : UInt8 := if Quotation.isVisible b then b else ascii '.'
    shown ++ List.replicate behind 0x20 ++ Bytes.ofString "  >" ++ bytes.map visible
      ++ [ascii '<']
  else shown

/-- A row in all manners. -/
def rowText (table : Table) (offset : Nat) (bytes : Bytes) : Bytes :=
  let indent := (table.places?.map Prod.snd).getD 0
  (table.manners.zipIdx).flatMap fun (manner, index) =>
    (if index = 0 then table.place offset else List.replicate indent 0x20)
      ++ table.fields manner bytes ++ [0x0A]

/-- Puts out all rows. Where a whole row is like the one before it, there is only a mark in place of
all such rows. `fuel` bounds how many rows there are. -/
def putRows (table : Table) : Nat → Nat → Option Bytes → Bool → Bytes → Tool Unit
  | 0, _, _, _, _ => return ()
  | fuel + 1, offset, before?, isMarked, bytes => do
    if bytes.isEmpty then
      if table.places?.isSome then putLine (table.place offset)
    else
      let here := bytes.take table.row
      let isSame := before? = some here && here.length = table.row && !table.showsAll
      if isSame then
        if !isMarked then put (Bytes.ofString "*\n")
      else put (table.rowText offset here)
      putRows table fuel (offset + here.length) (some here) isSame (bytes.drop table.row)

end Table

/-- The manners that a text names. `fuel` bounds how many there are. -/
def mannersOf (whole : Bytes) : Nat → Bytes → Except Bytes (List Manner)
  | 0, _ => .ok []
  | _, [] => .ok []
  | fuel + 1, letter :: rest => do
    let refuse : Except Bytes (List Manner) :=
      .error (Bytes.ofString "invalid character '" ++ letter :: Bytes.ofString "' in type string "
        ++ Quotation.cited whole)
    let withText (reading : Reading) (size : Nat) (rest : Bytes) :
        Except Bytes (List Manner) := do
      let hasText := rest.head? = some (ascii 'z')
      let others ← mannersOf whole fuel (if hasText then rest.drop 1 else rest)
      return ⟨reading, size, hasText⟩ :: others
    let reading? : Option Reading :=
      match Char.ofNat letter.toNat with
      | 'o' => some .octal
      | 'd' => some .signed
      | 'u' => some .unsigned
      | 'x' => some .hexadecimal
      | _ => none
    match reading? with
    | some reading =>
      let digits := rest.takeWhile Text.Ascii.isDigit
      if digits ≠ [] then
        let size := Text.Ascii.value 10 digits
        if [1, 2, 4, 8].contains size then withText reading size (rest.drop digits.length)
        else
          .error (Bytes.ofString "invalid type string " ++ Quotation.cited whole
            ++ Bytes.ofString s!";\nthis system doesn't provide a {size}-byte integral type")
      else
        match rest with
        | 0x43 :: rest => withText reading 1 rest
        | 0x53 :: rest => withText reading 2 rest
        | 0x49 :: rest => withText reading 4 rest
        | 0x4C :: rest => withText reading 8 rest
        | rest => withText reading 4 rest
    | none =>
      if letter = ascii 'c' then withText .character 1 rest
      else if letter = ascii 'a' then withText .named 1 rest
      else refuse

def dumpForms : List Form :=
  [setting "A" ["address-radix"], setting "j" ["skip-bytes"], setting "N" ["read-bytes"],
    setting "t" ["format"], toggle "v" ["output-duplicates"], ⟨"w", ["width"], .perhaps⟩,
    setting "endian" ["endian"], toggle "a", toggle "b", toggle "c", toggle "d", toggle "h",
    toggle "i", toggle "l", toggle "o", toggle "s", toggle "x"]

/-- The type that a letter stands for. -/
def typeOf : String → Option String
  | "a" => some "a"
  | "b" => some "o1"
  | "c" => some "c"
  | "d" => some "u2"
  | "h" | "x" => some "x2"
  | "i" => some "dI"
  | "l" => some "dL"
  | "o" => some "o2"
  | "s" => some "d2"
  | _ => none

/-- A number of bytes: decimal, octal or hexadecimal digits and a unit. -/
def countOf? (text : Bytes) : Option Nat := do
  let (base, body) :=
    match text with
    | 0x30 :: 0x78 :: rest | 0x30 :: 0x58 :: rest => (16, rest)
    | 0x30 :: rest => (8, if rest.head?.any Text.Ascii.isDigit then rest else 0x30 :: rest)
    | text => (10, text)
  let isDigit (b : UInt8) : Bool := (Text.Ascii.hexDigit? b).any (· < base)
  let digits := body.takeWhile isDigit
  if digits = [] then none
  let number := (digits.filterMap Text.Ascii.hexDigit?).foldl (fun n d => base * n + d) 0
  let unit ←
    match Bytes.shown (body.drop digits.length) with
    | "" => some 1
    | "b" => some 512
    | "k" | "K" | "KiB" => some 1024
    | "m" | "M" | "MiB" => some 1048576
    | "kB" | "KB" => some 1000
    | "MB" => some 1000000
    | _ => none
  return number * unit

/-- The least number that both numbers divide. -/
def sharedMultiple (sizes : List Nat) : Nat :=
  sizes.foldl Nat.lcm 1

/-- Shows bytes as numbers. -/
def tabulate (arguments : List Bytes) : Tool Unit := do
  let given ← options dumpForms arguments 1
  let count (key : String) : Tool (Option Nat) := do
    match given.value? key with
    | none => return none
    | some text =>
      match countOf? text with
      | some number => return some number
      | none =>
        failWith 1 (Bytes.ofString ("invalid -" ++ key ++ " argument ") ++ Quotation.cited text)
  let places? ←
    match (given.value? "A").map Bytes.shown with
    | none | some "o" => pure (some (8, 7))
    | some "d" => pure (some (10, 7))
    | some "x" => pure (some (16, 6))
    | some "n" => pure none
    | some other =>
      match other.toList with
      | 'o' :: _ => pure (some (8, 7))
      | 'd' :: _ => pure (some (10, 7))
      | 'x' :: _ => pure (some (16, 6))
      | 'n' :: _ => pure none
      | _ =>
        failWith 1 (Bytes.ofString "invalid output address radix '" ++ Bytes.ofString other
          ++ Bytes.ofString "'; it must be one character from [doxn]")
  let types := given.options.filterMap fun (key, value?) =>
    if key = "t" then value? else (typeOf key).map Bytes.ofString
  let types := if types = [] then [Bytes.ofString "o2"] else types
  let mut manners : List Manner := []
  for type in types do
    match mannersOf type (type.length + 1) type with
    | .ok more => manners := manners ++ more
    | .error text => failWith 1 text
  let skip := (← count "j").getD 0
  let limit? ← count "N"
  match ← contents? given.operands with
  | none => return ()
  | some bytes =>
    if bytes.length < skip then
      failWith 1 (Bytes.ofString "cannot skip past end of combined input")
    let whole := sharedMultiple (manners.map Manner.size)
    let usual := if whole < 16 then whole * (16 / whole) else whole
    let row ←
      if given.has "w" then
        let wanted := ((given.value? "w").bind countOf?).getD 32
        if 0 < wanted && wanted % whole = 0 then pure wanted
        else
          warn (Bytes.ofString s!"warning: invalid width {wanted}; using {whole} instead")
          pure whole
      else pure usual
    let table : Table := {
      manners, row, places?, showsAll := given.has "v"
      isBig := given.value? "endian" = some (Bytes.ofString "big") }
    let rest := bytes.drop skip
    let rest := (limit?.map fun limit => rest.take limit).getD rest
    table.putRows (rest.length + 1) skip none false rest

/-- The letters that stand for six bits each. -/
def alphabet : Bytes :=
  Bytes.ofString "ABCDEFGHIJKLMNOPQRSTUVWXYZabcdefghijklmnopqrstuvwxyz0123456789+/"

/-- The letters that stand for five bits each. -/
def shortAlphabet : Bytes :=
  Bytes.ofString "ABCDEFGHIJKLMNOPQRSTUVWXYZ234567"

/-- How bytes are written as letters: in groups of bytes, each of which makes so many letters. -/
structure Code where
  alphabet : Bytes
  bytes : Nat
  letters : Nat
  /-- Of a group that is too short, the bytes in front are kept. -/
  keepsPart : Bool

def base64 : Code := ⟨alphabet, 3, 4, true⟩
def base32 : Code := ⟨shortAlphabet, 5, 8, false⟩

namespace Code

/-- How many letters are needed for so many bytes. -/
def lettersFor (code : Code) (count : Nat) : Nat :=
  (count * code.letters + code.bytes - 1) / code.bytes

/-- The letters of a group of bytes, with signs in place of those that are not needed. -/
def group (code : Code) (bytes : Bytes) : Bytes :=
  let full := bytes ++ List.replicate (code.bytes - bytes.length) 0
  let value := full.foldl (fun n b => 256 * n + b.toNat) 0
  let base := code.alphabet.length
  let letters := (List.range code.letters).map fun index =>
    let power := Nat.pow base (code.letters - 1 - index)
    (code.alphabet[value / power % base]?).getD 0
  let count := code.lettersFor bytes.length
  letters.take count ++ List.replicate (code.letters - count) (ascii '=')

/-- Bytes as letters. `fuel` bounds how many groups there are. -/
def encode (code : Code) : Nat → Bytes → Bytes
  | 0, _ => []
  | _, [] => []
  | fuel + 1, bytes =>
    code.group (bytes.take code.bytes) ++ encode code fuel (bytes.drop code.bytes)

/-- The bytes of a group of letters, if it is one. -/
def ungroup? (code : Code) (letters : Bytes) : Option Bytes := do
  let body := letters.takeWhile (· ≠ ascii '=')
  let rest := letters.drop body.length
  let count := body.length * code.bytes / code.letters
  if letters.length ≠ code.letters || !rest.all (· = ascii '=') then none
  if count = 0 || code.lettersFor count ≠ body.length then none
  let base := code.alphabet.length
  let digits ← body.mapM fun letter => code.alphabet.idxOf? letter
  let digits := digits ++ List.replicate (code.letters - body.length) 0
  let value := digits.foldl (fun n digit => base * n + digit) 0
  let bytes := (List.range code.bytes).map fun index =>
    UInt8.ofNat (value / Nat.pow 256 (code.bytes - 1 - index))
  return bytes.take count

/-- The bytes that letters stand for, as far as they stand for any, and whether all of them do. -/
def decode (code : Code) : Nat → Bytes → Bytes × Bool
  | 0, _ => ([], true)
  | _, [] => ([], true)
  | fuel + 1, letters =>
    let (here, rest) := (letters.take code.letters, letters.drop code.letters)
    match code.ungroup? here with
    | some bytes =>
      let (others, isWhole) := decode code fuel rest
      (bytes ++ others, isWhole)
    | none =>
      let known := here.takeWhile code.alphabet.contains
      let count := known.length * code.bytes / code.letters
      let full := known.take (code.lettersFor count)
      let padded := full ++ List.replicate (code.letters - full.length) (ascii '=')
      let isKept := code.keepsPart || here.length = code.letters
      (if count ≠ 0 && isKept then (code.ungroup? padded).getD [] else [], false)

end Code

/-- Puts out letters in lines of a width; none is no width. -/
def putFolded (width : Nat) : Nat → Bytes → Tool Unit
  | 0, _ => return ()
  | _, [] => return ()
  | fuel + 1, letters => do
    putLine (letters.take width)
    putFolded width fuel (letters.drop width)

/-- Writes bytes as letters, or letters as the bytes that they stand for. -/
def transcribe (code : Code) (arguments : List Bytes) : Tool Unit := do
  let given ← options [toggle "d" ["decode"], toggle "i" ["ignore-garbage"],
    setting "w" ["wrap"]] arguments 1
  match given.operands with
  | _ :: extra :: _ => misuse 1 (Bytes.ofString "extra operand " ++ Quotation.quoted extra)
  | _ => pure ()
  let width ←
    match given.value? "w" with
    | none => pure 76
    | some text =>
      match Text.Ascii.decimal? text with
      | some width => pure width
      | none => failWith 1 (Bytes.ofString "invalid wrap size: " ++ Quotation.cited text)
  let path := given.operands.headD [ascii '-']
  match ← openInput path with
  | .error fault =>
    failWith 1 (Quotation.shown path ++ Bytes.ofString (": " ++ fault.reason))
  | .ok descriptor =>
    match ← readAll descriptor with
    | .error fault => failWith 1 (Bytes.ofString ("read error: " ++ fault.reason))
    | .ok bytes =>
      if given.has "d" then
        let isLetter (b : UInt8) : Bool := code.alphabet.contains b || b = ascii '='
        let letters :=
          if given.has "i" then bytes.filter isLetter else bytes.filter (· ≠ 0x0A)
        let (decoded, isWhole) := code.decode (letters.length + 1) letters
        put decoded
        if !isWhole then
          flush
          complain (Bytes.ofString "invalid input")
      else
        let letters := code.encode (bytes.length + 1) bytes
        if width = 0 then put letters else putFolded width (letters.length + 1) letters

end ChangelogSql.Utility.Dump
