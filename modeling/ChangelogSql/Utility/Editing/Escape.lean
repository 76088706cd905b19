import ChangelogSql.Text.Ascii

/-!
Backslash sequences in the scripts of the stream editor: those that stand for a
byte are replaced before anything else is made of a text.
-/

namespace ChangelogSql.Utility.Editing

open Text (ascii)

/-- What a text is for. -/
inductive Role where
  | pattern
  | replacement
  | plain
  deriving DecidableEq

namespace Escape

/-- The byte that a letter behind a backslash stands for. -/
def simple? (b : UInt8) : Option UInt8 :=
  if b = ascii 'a' then some 0x07
  else if b = ascii 'f' then some 0x0C
  else if b = ascii 'n' then some 0x0A
  else if b = ascii 'r' then some 0x0D
  else if b = ascii 't' then some 0x09
  else if b = ascii 'v' then some 0x0B
  else none

/-- The value of a digit in a base. -/
def digit? (base : Nat) (b : UInt8) : Option Nat :=
  (Text.Ascii.hexDigit? b).filter (· < base)

/-- The base in which a letter introduces a number, and how many digits it has at most. -/
def number? (b : UInt8) : Option (Nat × Nat) :=
  if b = ascii 'd' then some (10, 3)
  else if b = ascii 'o' then some (8, 3)
  else if b = ascii 'x' then some (16, 2)
  else none

/-- A byte that was written as a number. It means itself, save in a pattern. -/
def literal (role : Role) (b : UInt8) : Bytes :=
  let isSpecial :=
    match role with
    | .pattern => false
    | .replacement => b = ascii '&' || b = ascii '\\'
    | .plain => b = ascii '\\'
  if isSpecial then [ascii '\\', b] else [b]

/-- What one sequence stands for and how many bytes it takes, the backslash not counted; nothing where
it is to be left as it is. -/
def sequence? (role : Role) : Bytes → Option (Bytes × Nat)
  | [] => none
  | b :: rest =>
    match simple? b with
    | some byte => some ([byte], 1)
    | none =>
      match number? b with
      | some (base, most) =>
        let digits := ((rest.take most).map (digit? base)).takeWhile Option.isSome
        if digits = [] then none
        else
          let value := digits.foldl (fun value digit => value * base + digit.getD 0) 0
          some (literal role (UInt8.ofNat value), digits.length + 1)
      | none =>
        match rest with
        | control :: _ =>
          if b = ascii 'c' then some ([Text.Ascii.upper control ^^^ 0x40], 2) else none
        | [] => none

/-- A text with its sequences replaced; `skip` bytes belong to one that is done. -/
def resolvedFrom (role : Role) : Nat → Bytes → Bytes
  | _, [] => []
  | skip + 1, _ :: rest => resolvedFrom role skip rest
  | 0, b :: rest =>
    if b ≠ ascii '\\' then b :: resolvedFrom role 0 rest
    else
      match sequence? role rest with
      | some (bytes, count) => bytes ++ resolvedFrom role count rest
      | none =>
        match rest with
        | [] => [b]
        | next :: _ => b :: next :: resolvedFrom role 1 rest

/-- A text with its sequences replaced. -/
def resolved (role : Role) (text : Bytes) : Bytes :=
  resolvedFrom role 0 text

/-- A text without the backslashes that are left. -/
def stripped : Bytes → Bytes
  | [] => []
  | [b] => [b]
  | b :: next :: rest =>
    if b = ascii '\\' then next :: stripped rest else b :: stripped (next :: rest)

end Escape

end ChangelogSql.Utility.Editing
