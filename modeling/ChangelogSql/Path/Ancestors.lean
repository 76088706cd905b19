import ChangelogSql.Path.Basic

/-!
Shortening a path from either end. Cutting never normalises what is kept: the
text between the two ends stays as it was written, and only silent segments at
a cut are dropped.
-/

namespace ChangelogSql.Path

/-- The segments up to the last one that says something. -/
def trimRight (segments : List Bytes) : List Bytes :=
  (segments.reverse.dropWhile silent).reverse

/-- The segments from the first one that says something. -/
def trimLeft (segments : List Bytes) : List Bytes :=
  segments.dropWhile silent

/-- The path without its last component. The top of the file system and the empty path have none
to lose. -/
def parent? (path : Path) : Option Path :=
  let parts := path.parts
  match trimRight parts.segments with
  | [] =>
    match parts.anchor with
    | .here => some ⟨[]⟩
    | .top | .none => none
  | segment :: segments =>
    some (ofParts { parts with segments := trimRight (segment :: segments).dropLast })

/-- The paths left by taking away the last component again and again, `fuel` times at most. -/
def ancestorsWithin : Nat → Path → List Path
  | 0, path => [path]
  | fuel + 1, path =>
    match path.parent? with
    | some above => path :: ancestorsWithin fuel above
    | none => [path]

/-- The path itself, its parent, the parent of that, and so on to the last one. Each step loses a
component, so there are no more steps than components. -/
def ancestors (path : Path) : List Path :=
  ancestorsWithin path.components.length path

/-- Drops the segments that spell `count` components. -/
def dropComponents : Nat → List Bytes → List Bytes
  | 0, segments => segments
  | _ + 1, [] => []
  | count + 1, segment :: segments =>
    if silent segment then dropComponents (count + 1) segments
    else dropComponents count segments

/-- What is left of `path` after the components of `base`, where `path` starts with them. -/
def stripBase? (path base : Path) : Option Path :=
  if path.startsWith base then
    let parts := path.parts
    match base.components.length with
    | 0 => some (ofParts { parts with segments := trimRight parts.segments })
    | count + 1 =>
      let below := if parts.anchor = .none then count + 1 else count
      let rest := trimRight (trimLeft (dropComponents below parts.segments))
      some (ofParts ⟨.none, rest⟩)
  else none

end ChangelogSql.Path
