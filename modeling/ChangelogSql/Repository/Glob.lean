import ChangelogSql.Path.Basic
import ChangelogSql.Shell.Pattern

/-!
Patterns for paths: a star stands for a run of bytes within one segment, two
stars between separators for any segments.
-/

namespace ChangelogSql.Repository.Glob

open Text (ascii)

/-- One element of a pattern for paths. -/
inductive Element where
  | byte (byte : UInt8)
  /-- Any byte that is no separator. -/
  | one
  /-- A run of bytes that are no separators. -/
  | run
  /-- A run of any bytes. -/
  | deep
  /-- Some segments with the separators behind them, or nothing. -/
  | segments
  /-- Any byte at all. -/
  | any
  | set (isNegated : Bool) (members : List Shell.Pattern.Member)

/-- The elements that a pattern spells. Where `crosses` is set, stars and question marks take
separators too. `fuel` bounds how many elements there are. -/
def elements (crosses : Bool) : Nat → Bool → Bytes → List Element
  | 0, _, _ => []
  | _, _, [] => []
  | fuel + 1, isAtSegment, b :: rest =>
    if b = ascii '*' then
      let more := rest.takeWhile (· = ascii '*')
      let behind := rest.drop more.length
      if crosses then .deep :: elements crosses fuel false behind
      else if more.length = 1 && isAtSegment then
        match behind with
        | [] => [.deep]
        | next :: further =>
          if next = separator then .segments :: elements crosses fuel true further
          else .run :: elements crosses fuel false behind
      else .run :: elements crosses fuel false behind
    else if b = ascii '?' then
      (if crosses then .any else .one) :: elements crosses fuel false rest
    else if b = ascii '[' then
      match Shell.Pattern.set? (rest.map fun b => ⟨b, true⟩) with
      | some (.set isNegated members, further) =>
        .set isNegated members :: elements crosses fuel false (further.map (·.byte))
      | _ => .byte b :: elements crosses fuel false rest
    else if b = ascii '\\' then
      match rest with
      | [] => [.byte b]
      | next :: rest => .byte next :: elements crosses fuel false rest
    else .byte b :: elements crosses fuel (b = separator) rest

/-- The pattern that a text spells. -/
def ofBytes (crosses : Bool) (text : Bytes) : List Element :=
  elements crosses text.length true text

/-- A text and its ends up to the first byte that must not be skipped. -/
def ends (skips : UInt8 → Bool) : Bytes → List Bytes
  | [] => [[]]
  | b :: rest => (b :: rest) :: if skips b then ends skips rest else []

/-- What comes behind each of the separators in a text. -/
def behindSeparators : Bytes → List Bytes
  | [] => []
  | b :: rest =>
    if b = separator then rest :: behindSeparators rest else behindSeparators rest

/-- A pattern matches a whole text. -/
def accepts : List Element → Bytes → Bool
  | [], text => text = []
  | .byte byte :: pattern, text =>
    match text with
    | b :: rest => b = byte && accepts pattern rest
    | [] => false
  | .one :: pattern, text =>
    match text with
    | b :: rest => b ≠ separator && accepts pattern rest
    | [] => false
  | .any :: pattern, text =>
    match text with
    | _ :: rest => accepts pattern rest
    | [] => false
  | .set isNegated members :: pattern, text =>
    match text with
    | b :: rest =>
      b ≠ separator && (Shell.Pattern.isMember members b != isNegated) && accepts pattern rest
    | [] => false
  | .run :: pattern, text => (ends (· ≠ separator) text).any (accepts pattern)
  | .deep :: pattern, text => (ends (fun _ => true) text).any (accepts pattern)
  | .segments :: pattern, text =>
    accepts pattern text || (behindSeparators text).any (accepts pattern)

/-- A byte makes a text a pattern. -/
def isSpecial (text : Bytes) : Bool :=
  text.any fun b => b = ascii '*' || b = ascii '?' || b = ascii '[' || b = ascii '\\'

end ChangelogSql.Repository.Glob
