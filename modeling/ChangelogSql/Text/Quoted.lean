import ChangelogSql.Text.Category
import ChangelogSql.Text.Utf8

/-!
Bytes between quotation marks, written so that a reader can tell every byte:
quotation marks, and characters that cannot be seen for what they are or that go
with the character before them, are escaped, and a broken piece is shown byte by
byte in hexadecimal.
-/

namespace ChangelogSql.Text.Quoted

/-- A digit of a hexadecimal number. -/
def hexDigit (upper : Bool) (n : Nat) : Char :=
  let digit := (Nat.toDigits 16 n).getD 0 '0'
  if upper then digit.toUpper else digit

/-- A character between quotation marks. -/
def escaped (c : Char) : List Char :=
  if c = '"' || c = '\\' then ['\\', c]
  else if c = '\n' then ['\\', 'n']
  else if c = '\r' then ['\\', 'r']
  else if c = '\t' then ['\\', 't']
  else if c.toNat = 0 then ['\\', '0']
  else if isJoining c || !isVisible c then
    "\\u".toList ++ ['\x7b'] ++ Nat.toDigits 16 c.toNat ++ ['\x7d']
  else [c]

/-- A byte of a broken piece between quotation marks. -/
def escapedByte (b : UInt8) : List Char :=
  ['\\', 'x', hexDigit true (b.toNat / 16), hexDigit true (b.toNat % 16)]

/-- A text between quotation marks. -/
def ofText (text : String) : String :=
  String.ofList ('"' :: text.toList.flatMap escaped ++ ['"'])

/-- Bytes between quotation marks. -/
def ofBytes (bytes : Bytes) : String :=
  let shown := (Utf8.pieces bytes).flatMap fun
    | .scalar c => escaped c
    | .broken bytes => bytes.flatMap escapedByte
  String.ofList ('"' :: shown ++ ['"'])

end ChangelogSql.Text.Quoted
