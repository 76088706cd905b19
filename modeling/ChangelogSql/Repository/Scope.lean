import ChangelogSql.Repository.Glob
import ChangelogSql.Repository.Session

/-!
The paths that a command is limited to.
-/

namespace ChangelogSql.Repository

open Text (ascii)
open Files

/-- Paths that are meant: one with all below it, or those that a pattern matches. -/
structure Scope where
  /-- The path from the top, without a separator at its end. -/
  path : Bytes
  pattern? : Option (List Glob.Element)
  isExcluded : Bool
  /-- Only a directory can be meant. -/
  forDirectory : Bool
  /-- How it was written. -/
  text : Bytes

namespace Scope

/-- A path lies at another one or below it. -/
def covers (path other : Bytes) : Bool :=
  path = [] || path = other || (path ++ [separator]).isPrefixOf other

/-- A path is meant. -/
def meets (scope : Scope) (path : Bytes) : Bool :=
  (covers scope.path path && !(scope.forDirectory && scope.path = path))
    || scope.pattern?.any fun pattern => Glob.accepts pattern path

/-- A path is meant by some scopes; where there are none, every path is. -/
def admits (scopes : List Scope) (path : Bytes) : Bool :=
  let wanted := scopes.filter fun scope => !scope.isExcluded
  (wanted.isEmpty || wanted.any (·.meets path))
    && !(scopes.any fun scope => scope.isExcluded && scope.meets path)

/-- Segments without those that say nothing; one that goes up takes away the one before it. -/
def resolved : List Bytes → List Bytes → Option (List Bytes)
  | before, [] => some before.reverse
  | before, segment :: rest =>
    if Path.silent segment then resolved before rest
    else if segment = [0x2E, 0x2E] then
      match before with
      | [] => none
      | _ :: before => resolved before rest
    else resolved (segment :: before) rest

/-- A path of the working tree, as it is named from the top. -/
def fromTop? (site : Site) (path : Bytes) : Option Bytes :=
  let segments :=
    if path.head? = some separator then
      if path = site.top then some []
      else (Text.afterBlock? (site.top ++ [separator]) path).bind fun rest =>
        resolved [] (Text.splitAt separator rest)
    else resolved [] (Text.splitAt separator (site.inner ++ path))
  segments.map (Text.joinWith separator)

/-- The scope that an argument is. -/
def ofArgument (text : Bytes) : Work Scope := do
  let site ← Work.site
  let (isExcluded, isFromTop, rest) :=
    match text with
    | 0x3A :: 0x2F :: rest => (false, true, rest)
    | 0x3A :: 0x21 :: rest | 0x3A :: 0x5E :: rest => (true, false, rest)
    | text =>
      match Text.afterBlock? (Bytes.ofString ":(exclude)") text with
      | some rest => (true, false, rest)
      | none =>
        match Text.afterBlock? (Bytes.ofString ":(top)") text with
        | some rest => (false, true, rest)
        | none => (false, false, text)
  let base := if isFromTop then { site with inner := [] } else site
  match fromTop? base rest with
  | none =>
    Work.die (ascii '\'' :: text ++ Bytes.ofString "' is outside repository at '" ++ site.top
      ++ [ascii '\''])
  | some path =>
    let pattern? := if Glob.isSpecial path then some (Glob.ofBytes true path) else none
    let isTrailed := rest.getLast? = some separator && path ≠ []
    return ⟨path, pattern?, isExcluded, isTrailed, text⟩

end Scope

/-- A path, given by its segments, as it is named from a directory that is given likewise. -/
def segmentsFrom : List Bytes → List Bytes → List Bytes
  | here :: inner, segment :: rest =>
    if here = segment && rest ≠ [] then segmentsFrom inner rest
    else (here :: inner).map (fun _ => Bytes.ofString "..") ++ segment :: rest
  | _, segments => segments

/-- A path from the top of the working tree as it is named from the working directory. -/
def Site.relative (site : Site) (path : Bytes) : Bytes :=
  let inner := (Text.splitAt separator site.inner).filter (· ≠ [])
  match Text.joinWith separator (segmentsFrom inner (Text.splitAt separator path)) with
  | [] => Bytes.ofString "./"
  | path => path

/-- A byte that makes a path be put in quotes. -/
def isUnusual (b : UInt8) : Bool :=
  b < 0x20 || 0x7F ≤ b || b = 0x22 || b = 0x5C

/-- A byte as it stands between quotes. -/
def quotedByte (b : UInt8) : Bytes :=
  let letters : List (UInt8 × Char) :=
    [(0x07, 'a'), (0x08, 'b'), (0x09, 't'), (0x0A, 'n'), (0x0B, 'v'), (0x0C, 'f'), (0x0D, 'r'),
      (0x22, '"'), (0x5C, '\\')]
  match letters.lookup b with
  | some letter => [0x5C, ascii letter]
  | none =>
    if isUnusual b then 0x5C :: ([b / 64, b / 8 % 8, b % 8].map fun digit => digit + ascii '0')
    else [b]

/-- A path as it is shown, in quotes where a byte of it is unusual, or where it has blanks and these
count too. -/
def shownPath (blanksCount : Bool) (path : Bytes) : Bytes :=
  if path.any fun b => isUnusual b || (blanksCount && b = 0x20) then
    0x22 :: path.flatMap quotedByte ++ [0x22]
  else path

end ChangelogSql.Repository
