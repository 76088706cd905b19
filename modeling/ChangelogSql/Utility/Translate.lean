import ChangelogSql.Utility.Input
import ChangelogSql.Utility.Option

/-!
The program that puts bytes in place of others, takes bytes away, and makes runs
of the same byte one.
-/

namespace ChangelogSql.Utility.Translate

open Text (ascii)
open Kernel
open Tool

/-- A part of a list of bytes. -/
inductive Part where
  | byte (b : UInt8)
  | span (low high : UInt8)
  | ofKind (kind : Text.Ascii.Kind)
  | times (b : UInt8) (count : Nat)
  deriving DecidableEq

/-- A byte as it is written, whether it was written with a backslash, and what follows. -/
def letter : Bytes → Option ((UInt8 × Bool) × Bytes)
  | [] => none
  | 0x5C :: b :: rest =>
    if Text.Ascii.isOctal b then
      let digits := ((b :: rest).take 3).takeWhile Text.Ascii.isOctal
      let digits := if 255 < Text.Ascii.value 8 digits then digits.take 2 else digits
      some ((UInt8.ofNat (Text.Ascii.value 8 digits), true), (b :: rest).drop digits.length)
    else
      let byte : UInt8 :=
        match Char.ofNat b.toNat with
        | 'a' => 0x07
        | 'b' => 0x08
        | 'f' => 0x0C
        | 'n' => 0x0A
        | 'r' => 0x0D
        | 't' => 0x09
        | 'v' => 0x0B
        | _ => b
      some ((byte, true), rest)
  | b :: rest => some ((b, false), rest)

/-- The letters of a list, each with whether it was written with a backslash. -/
def lettersOf : Nat → Bytes → List (UInt8 × Bool)
  | 0, _ => []
  | fuel + 1, bytes =>
    match letter bytes with
    | none => []
    | some (letter, rest) => letter :: lettersOf fuel rest

/-- A byte as it is shown in a complaint. -/
def shown (letter : UInt8 × Bool) : Bytes :=
  if Quotation.isVisible letter.1 then [letter.1] else Quotation.escape letter.1

/-- What stands before a plain sign followed by a plain closing bracket, and what comes behind. -/
def named? (sign : UInt8) : List (UInt8 × Bool) → List UInt8 → Option (List UInt8 × List (UInt8 × Bool))
  | a :: b :: rest, before =>
    if a = (sign, false) && b = (ascii ']', false) then some (before.reverse, rest)
    else named? sign (b :: rest) (a.1 :: before)
  | _, _ => none

/-- The parts that letters spell; `fuel` bounds their number. -/
def parts : Nat → List (UInt8 × Bool) → Except Bytes (List Part)
  | 0, _ => .ok []
  | _, [] => .ok []
  | fuel + 1, first :: rest => do
    let inBracket := if first = (ascii '[', false) then rest else []
    let special : Except Bytes (Option (Part × List (UInt8 × Bool))) :=
      match inBracket with
      | (0x3A, false) :: more =>
        match named? (ascii ':') more [] with
        | none => .ok none
        | some (name, rest) =>
          match Text.Ascii.kinds.find? fun entry => Bytes.ofString entry.1 = name with
          | some (_, kind) => .ok (some (.ofKind kind, rest))
          | none =>
            .error (Bytes.ofString "invalid character class " ++ Quotation.cited name)
      | (0x3D, false) :: more =>
        match named? (ascii '=') more [] with
        | some ([b], rest) => .ok (some (.byte b, rest))
        | some (name, _) =>
          .error (name ++ Bytes.ofString
            ": equivalence class operand must be a single character")
        | none => .ok none
      | (b, _) :: (0x2A, false) :: more =>
        let digits := (more.takeWhile fun letter => letter.1 ≠ ascii ']').map Prod.fst
        match more.drop digits.length with
        | [] => .ok none
        | _ :: rest =>
          if digits.all Text.Ascii.isDigit then
            let base := if digits.head? = some (ascii '0') then 8 else 10
            .ok (some (.times b (Text.Ascii.value base digits), rest))
          else
            .error (Bytes.ofString "invalid repeat count " ++ Quotation.cited digits
              ++ Bytes.ofString " in [c*n] construct")
      | _ => .ok none
    match ← special with
    | some (part, rest) => return part :: (← parts fuel rest)
    | none =>
      match rest with
      | (0x2D, false) :: high :: more =>
        if high.1 < first.1 then
          throw (Bytes.ofString "range-endpoints of '" ++ shown first ++ [ascii '-'] ++ shown high
            ++ Bytes.ofString "' are in reverse collating sequence order")
        return .span first.1 high.1 :: (← parts fuel more)
      | rest => return .byte first.1 :: (← parts fuel rest)

/-- All bytes in order. -/
def everyByte : Bytes :=
  (List.range 256).map UInt8.ofNat

/-- The bytes that a part stands for; a repetition without a count fills what is missing. -/
def Part.bytes (missing : Nat) : Part → Bytes
  | .byte b => [b]
  | .span low high => everyByte.filter fun b => low ≤ b && b ≤ high
  | .ofKind kind => everyByte.filter kind.holds
  | .times b 0 => List.replicate missing b
  | .times b count => List.replicate count b

/-- The bytes that parts stand for. -/
def bytesOf (parts : List Part) (missing : Nat) : Bytes :=
  parts.flatMap (Part.bytes missing)

/-- The parts of a list that was given. -/
def read (text : Bytes) : Tool (List Part) := do
  let backslashes := (text.reverse.takeWhile (· = 0x5C)).length
  if backslashes % 2 = 1 then
    warn (Bytes.ofString "warning: an unescaped backslash at end of string is not portable")
  match parts (text.length + 1) (lettersOf (text.length + 1) text) with
  | .ok parts => return parts
  | .error fault => failWith 1 fault

/-- A part that stands for letters of one case. -/
def isCase : Part → Bool
  | .ofKind .lower | .ofKind .upper => true
  | _ => false

/-- The bytes put in place of those of two lists, each with the place at which it is found. The kinds
of small and of capital letters stand for one another. -/
def pairs (parts others : List Part) (isComplement : Bool) : Bytes × Bytes :=
  let first := bytesOf parts 0
  let first := if isComplement then everyByte.filter fun b => !first.contains b else first
  let rest := bytesOf others 0
  let second := bytesOf others (first.length - rest.length)
  let last := second.getLast?
  let second := second ++ List.replicate (first.length - second.length) (last.getD 0)
  let cases := parts.any isCase && others.any isCase && !isComplement
  if cases && parts.length = 1 && others.length = 1 then
    match parts, others with
    | [.ofKind .lower], [.ofKind .upper] => (first, first.map Text.Ascii.upper)
    | [.ofKind .upper], [.ofKind .lower] => (first, first.map Text.Ascii.lower)
    | _, _ => (first, second)
  else (first, second)

/-- Bytes in which runs of some of them are one; `last?` is the byte before. -/
def squeezed (isSqueezed : UInt8 → Bool) (last? : Option UInt8) : Bytes → Bytes
  | [] => []
  | b :: rest =>
    if isSqueezed b && last? = some b then squeezed isSqueezed last? rest
    else b :: squeezed isSqueezed (some b) rest

/-- Complains about the number of operands. -/
def refuse {α : Type} (text : Bytes) (why : String) : Tool α := do
  warn text
  if why ≠ "" then
    emit (Bytes.ofString (why ++ "\n"))
  hint
  setCode 1
  stop

/-- Puts bytes in place of others. -/
def translate (arguments : List Bytes) : Tool Unit := do
  let given ← leadingOptions [toggle "c", toggle "C" ["complement"], toggle "d" ["delete"],
    toggle "s" ["squeeze-repeats"], toggle "t" ["truncate-set1"]] arguments 1
  let isComplement := given.has "c" || given.has "C"
  let (deletes, squeezes) := (given.has "d", given.has "s")
  let least := if deletes && !squeezes then 1 else if deletes then 2 else if squeezes then 1 else 2
  let most := if deletes && !squeezes then 1 else 2
  let missing (text : Bytes) : Bytes := Bytes.ofString "missing operand after " ++ Quotation.cited text
  match given.operands with
  | [] => refuse (Bytes.ofString "missing operand") ""
  | [single] =>
    if least = 2 then
      refuse (missing single)
        (if deletes then "Two strings must be given when both deleting and squeezing repeats."
          else "Two strings must be given when translating.")
  | _ => pure ()
  match given.operands.drop most with
  | [] => pure ()
  | extra :: _ =>
    refuse (Bytes.ofString "extra operand " ++ Quotation.cited extra)
      (if deletes && !squeezes && given.operands.length = 2 then
        "Only one string may be given when deleting without squeezing repeats." else "")
  let parts ← read (given.operands.headD [])
  let others? ←
    match given.operands.drop 1 with
    | [] => pure none
    | text :: _ => do pure (some (← read text))
  let chosen := bytesOf parts 0
  let isChosen (b : UInt8) : Bool := chosen.contains b != isComplement
  let translates := !deletes && others?.isSome
  let others := others?.getD []
  if translates then
    if others.any fun part => match part with
        | .ofKind kind => kind ≠ .lower && kind ≠ .upper
        | _ => false then
      failWith 1 (Bytes.ofString ("when translating, the only character classes that may appear in\n"
        ++ "string2 are 'upper' and 'lower'"))
    if others.any isCase && !parts.any isCase then
      failWith 1 (Bytes.ofString "misaligned [:upper:] and/or [:lower:] construct")
    if others.isEmpty && !parts.isEmpty && !given.has "t" then
      failWith 1 (Bytes.ofString "when not truncating set1, string2 must be non-empty")
  let (from', to') := pairs parts others isComplement
  let short := (bytesOf others 0).length
  let (from', to') :=
    if given.has "t" then (from'.take short, to'.take short) else (from', to')
  let table : Array UInt8 := (from'.zip to').foldl
    (fun table entry => table.setIfInBounds entry.1.toNat entry.2) everyByte.toArray
  let last := bytesOf others 0
  let isSqueezed (b : UInt8) : Bool := if others?.isSome then last.contains b else isChosen b
  let change (bytes : Bytes) : Bytes :=
    let bytes := if deletes then bytes.filter fun b => !isChosen b else bytes
    if translates then bytes.map fun b => (table[b.toNat]?).getD b else bytes
  let rec go : Nat → Option UInt8 → Tool Unit
    | 0, _ => return ()
    | fuel + 1, last? => do
      match ← portion 0 with
      | .error fault => complain (Bytes.ofString ("read error: " ++ fault.reason))
      | .ok [] => return ()
      | .ok bytes =>
        let changed := change bytes
        let output := if squeezes then squeezed isSqueezed last? changed else changed
        put output
        go fuel (changed.getLast?.or last?)
  go Activity.portionLimit none

end ChangelogSql.Utility.Translate
