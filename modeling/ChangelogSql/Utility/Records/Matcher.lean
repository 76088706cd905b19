import ChangelogSql.Utility.Matching

/-!
The regular expressions of the rules for records: the extended form without
bounds, in which a backslash has the same meaning as in texts and a parenthesis
that closes nothing means itself.
-/

namespace ChangelogSql.Utility.Records

open Text (ascii)
open Expression

/-- An expression with the text that it was read from. -/
structure Matcher where
  source : Bytes
  program : Program

namespace Matcher

/-- Why a text is no expression. -/
inductive Refusal where
  | openGroup
  | missingOperand
  | badClass
  | repeatedAnchor
  deriving DecidableEq

def Refusal.message : Refusal → String
  | .openGroup => "missing ')'"
  | .missingOperand => "missing operand"
  | .badClass => "bad class -- [], [^] or ["
  | .repeatedAnchor => "syntax error ^* or ^+"

/-- What a letter stands for behind a backslash. -/
def simple? (b : UInt8) : Option UInt8 :=
  match Char.ofNat b.toNat with
  | '"' => some b
  | '\\' => some b
  | 'a' => some 7
  | 'b' => some 8
  | 'f' => some 12
  | 'n' => some 10
  | 'r' => some 13
  | 't' => some 9
  | 'v' => some 11
  | _ => none

/-- Up to so many digits of a base at the beginning of a text. -/
def digitsOf (base most : Nat) (bytes : Bytes) : Bytes :=
  (bytes.take most).takeWhile fun b => (Text.Ascii.hexDigit? b).any (· < base)

/-- The byte that digits of a base stand for. -/
def byteOf (base : Nat) (digits : Bytes) : UInt8 :=
  UInt8.ofNat ((digits.filterMap Text.Ascii.hexDigit?).foldl (fun sum d => sum * base + d) 0)

/-- The byte that stands behind a backslash, where that has a meaning, and what follows it. -/
def escape? (bytes : Bytes) : Option (UInt8 × Bytes) :=
  match bytes with
  | [] => none
  | b :: rest =>
    match simple? b with
    | some byte => some (byte, rest)
    | none =>
      let octal := digitsOf 8 3 bytes
      if octal ≠ [] then some (byteOf 8 octal, bytes.drop octal.length)
      else if b = ascii 'x' then
        let digits := digitsOf 16 2 rest
        if digits = [] then none else some (byteOf 16 digits, rest.drop digits.length)
      else none

/-- The byte that stands behind a backslash, which is any other byte itself. -/
def escaped (bytes : Bytes) : UInt8 × Bytes :=
  match escape? bytes, bytes with
  | some found, _ => found
  | none, b :: rest => (b, rest)
  | none, [] => (ascii '\\', [])

/-- A member of a set: a byte or a kind. -/
def piece (bytes : Bytes) : Except Refusal (Piece × Bytes) :=
  match bytes with
  | [] => .error .badClass
  | 0x5C :: rest =>
    let (b, rest) := escaped rest
    .ok (.byte b, rest)
  | 0x5B :: 0x3A :: rest =>
    match named? (ascii ':') rest with
    | some (name, rest) =>
      match Text.Ascii.kinds.find? fun entry => Bytes.ofString entry.1 = name with
      | some (_, kind) => .ok (.kind kind, rest)
      | none => .error .badClass
    | none => .error .badClass
  | b :: rest => .ok (.byte b, rest)

/-- The member that a piece is. -/
def member : Piece → Member
  | .byte b => .span b b
  | .kind kind => .kind kind

/-- The members of a set up to its closing bracket. What is no range from a lower to a higher byte
are three members. -/
def members : Nat → Bool → Bytes → Except Refusal (List Member × Bytes)
  | 0, _, _ => .error .badClass
  | fuel + 1, isFirst, bytes => do
    match bytes, isFirst with
    | 0x5D :: rest, false => return ([], rest)
    | bytes, _ =>
      let (low, rest) ← piece bytes
      match low, rest with
      | .byte start, 0x2D :: next :: further =>
        if next = ascii ']' then
          let (others, rest) ← members fuel false rest
          return (.span start start :: others, rest)
        else
          let (high, behind) ← piece (next :: further)
          match high with
          | .byte stop =>
            let (others, rest) ← members fuel false behind
            if start ≤ stop then return (.span start stop :: others, rest)
            else
              let dash := ascii '-'
              return (.span start start :: .span dash dash :: .span stop stop :: others, rest)
          | .kind _ =>
            let (others, rest) ← members fuel false rest
            return (.span start start :: others, rest)
      | low, rest =>
        let (others, rest) ← members fuel false rest
        return (member low :: others, rest)

/-- A set behind its opening bracket. -/
def bracketed (bytes : Bytes) : Except Refusal (ByteSet × Bytes) := do
  let isNegated := bytes.head? = some (ascii '^')
  let bytes := if isNegated then bytes.drop 1 else bytes
  let (members, rest) ← members (bytes.length + 1) true bytes
  return (⟨isNegated, members⟩, rest)

mutual

/-- Alternatives, and what follows them. -/
def alternatives : Nat → Nat → Bytes → Except Refusal (Tree × Bytes)
  | 0, _, _ => .error .missingOperand
  | fuel + 1, depth, bytes => do
    let (first, rest) ← branch fuel depth none bytes
    match rest with
    | 0x7C :: rest =>
      let (second, rest) ← alternatives fuel depth rest
      return (.either first second, rest)
    | rest => return (first, rest)

/-- Expressions one behind the other; `before?` has been read. -/
def branch : Nat → Nat → Option Tree → Bytes → Except Refusal (Tree × Bytes)
  | 0, _, _, _ => .error .missingOperand
  | fuel + 1, depth, before?, bytes => do
    let ended : Bool :=
      match bytes with
      | [] | 0x7C :: _ => true
      | 0x29 :: _ => 0 < depth
      | _ => false
    if ended then
      match before? with
      | some tree => return (tree, bytes)
      | none => throw (if bytes = [] && 0 < depth then .openGroup else .missingOperand)
    else
      let (next, rest) ← unit fuel depth before?.isSome bytes
      let (next, rest) ← repetitions fuel next rest
      let tree :=
        match before? with
        | some tree => .sequence tree next
        | none => next
      branch fuel depth (some tree) rest

/-- An expression without its repetitions. -/
def unit : Nat → Nat → Bool → Bytes → Except Refusal (Tree × Bytes)
  | 0, _, _, _ => .error .missingOperand
  | _, _, _, [] => .error .missingOperand
  | fuel + 1, depth, isBehind, b :: rest =>
    match Char.ofNat b.toNat with
    | '\\' =>
      let (b, rest) := escaped rest
      .ok (.set (only b), rest)
    | '.' => .ok (.set anyByte, rest)
    | '^' => .ok (.anchor .textStart, rest)
    | '$' => .ok (.anchor .textEnd, rest)
    | '[' => do
      let (set, rest) ← bracketed rest
      return (.set set, rest)
    | '(' =>
      match rest, isBehind with
      | 0x29 :: rest, true => .ok (.empty, rest)
      | rest, _ => do
        let (tree, rest) ← alternatives fuel (depth + 1) rest
        match rest with
        | 0x29 :: rest => return (tree, rest)
        | _ => throw .openGroup
    | '*' | '+' | '?' => .error .missingOperand
    | _ => .ok (.set (only b), rest)

/-- A tree with its repetitions. The beginning of a text cannot be repeated. -/
def repetitions : Nat → Tree → Bytes → Except Refusal (Tree × Bytes)
  | 0, _, _ => .error .missingOperand
  | fuel + 1, tree, bytes =>
    let isStart : Bool :=
      match tree with
      | .anchor .textStart => true
      | _ => false
    match bytes with
    | 0x2A :: rest =>
      if isStart then .error .repeatedAnchor else repetitions fuel (.times 0 none tree) rest
    | 0x2B :: rest =>
      if isStart then .error .repeatedAnchor else repetitions fuel (.times 1 none tree) rest
    | 0x3F :: rest => repetitions fuel (.times 0 (some 1) tree) rest
    | rest => .ok (tree, rest)

end

/-- The matcher that a text is; an empty text matches everywhere. -/
def ofBytes (source : Bytes) : Except Refusal Matcher := do
  let (tree, _) ←
    if source = [] then pure (Tree.empty, []) else alternatives (4 * source.length + 8) 0 source
  return ⟨source, (Whole.mk tree 0).program false false⟩

/-- The matcher of a text as it stands. -/
def literal (source : Bytes) : Matcher :=
  let tree := source.foldl (fun tree b => Tree.sequence tree (.set (only b))) .empty
  ⟨source, (Whole.mk tree 0).program false false⟩

/-- Signs that have a meaning in expressions. -/
def signs : Bytes :=
  Bytes.ofString "^.$|()[]+*?\\"

/-- The matcher of what parts texts; a single sign means itself. -/
def ofSeparator (source : Bytes) : Except Refusal Matcher :=
  match source with
  | [b] => if signs.contains b then .ok (literal source) else ofBytes source
  | _ => ofBytes source

/-- Where the expression matches first, from a place on. -/
def search? (matcher : Matcher) (text : ByteArray) (start : Nat) : Option (Nat × Nat) :=
  (matcher.program.search text start).map fun found => (found.start, found.stop)

/-- Where something that is not empty is matched first, from a place on. -/
def searchMore? (matcher : Matcher) (text : ByteArray) (start : Nat) : Option (Nat × Nat) :=
  (List.range (text.size + 1 - start)).findSome? fun offset =>
    match matcher.program.matchAt text (start + offset) with
    | some found => if found.start < found.stop then some (found.start, found.stop) else none
    | none => none

def occursIn (matcher : Matcher) (text : Bytes) : Bool :=
  matcher.program.occursIn text

end Matcher

end ChangelogSql.Utility.Records
