import ChangelogSql.Text.Ascii
import ChangelogSql.Text.Search

/-!
Names in messages, in quotes where a shell needs them: what stands between the
quotes can be given to a shell and means the same name.
-/

namespace ChangelogSql.Utility.Quotation

open Text (ascii)

/-- A byte that is safe without quotes, wherever it stands. -/
def isSafe (b : UInt8) : Bool :=
  Text.Ascii.isLetter b || Text.Ascii.isDigit b || (Bytes.ofString "%+,-./@]_").contains b

/-- A byte that means the same in both kinds of quotes. -/
def isNeutral (b : UInt8) : Bool :=
  isSafe b || (Bytes.ofString " #~:\x7b\x7d'").contains b

/-- A byte that is shown as it is. -/
def isVisible (b : UInt8) : Bool :=
  0x20 ≤ b && b ≤ 0x7E

/-- The name can stand without quotes. -/
def isPlain (name : Bytes) : Bool :=
  match name with
  | [] => false
  | [b] => isSafe b
  | first :: rest =>
    let isBrace (b : UInt8) : Bool := b = 0x7B || b = 0x7D
    (isSafe first || isBrace first)
      && rest.all fun b => isSafe b || isBrace b || b = ascii '#' || b = ascii '~'

/-- How a byte that is not shown is written. -/
def escape (b : UInt8) : Bytes :=
  if b = 0x07 then Bytes.ofString "\\a"
  else if b = 0x08 then Bytes.ofString "\\b"
  else if b = 0x09 then Bytes.ofString "\\t"
  else if b = 0x0A then Bytes.ofString "\\n"
  else if b = 0x0B then Bytes.ofString "\\v"
  else if b = 0x0C then Bytes.ofString "\\f"
  else if b = 0x0D then Bytes.ofString "\\r"
  else
    let digit (n : Nat) : UInt8 := UInt8.ofNat (48 + n)
    [ascii '\\', digit (b.toNat / 64), digit (b.toNat / 8 % 8), digit (b.toNat % 8)]

/-- A name between single quotes, with other quotes around what is not shown. `inEscapes` tells that
such quotes are open. -/
def quotedFrom : Bool → Bytes → Bytes
  | true, [] => Bytes.ofString "'"
  | false, [] => Bytes.ofString "'"
  | inEscapes, b :: rest =>
    if !isVisible b then
      (if inEscapes then [] else Bytes.ofString "'$'") ++ escape b ++ quotedFrom true rest
    else
      (if inEscapes then Bytes.ofString "''" else [])
        ++ (if b = 0x27 then Bytes.ofString "'\\''" else [b]) ++ quotedFrom false rest

/-- A name in quotes. -/
def quoted (name : Bytes) : Bytes :=
  if name.contains 0x27 && name.all isNeutral then ascii '"' :: name ++ [ascii '"']
  else ascii '\'' :: quotedFrom false name

/-- A text as it is cited: in quotes, and with backslashes before what would not be understood. -/
def cited (text : Bytes) : Bytes :=
  let shown (b : UInt8) : Bytes :=
    if b = 0x27 || b = 0x5C then [ascii '\\', b] else if isVisible b then [b] else escape b
  ascii '\'' :: text.flatMap shown ++ [ascii '\'']

/-- A name in quotes where it needs them. -/
def shown (name : Bytes) : Bytes :=
  if isPlain name then name else quoted name

end ChangelogSql.Utility.Quotation
