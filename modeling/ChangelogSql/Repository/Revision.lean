import ChangelogSql.Repository.Journal
import ChangelogSql.Repository.Scope

/-!
How commits and other things that are kept are named: by the head, by branches
and marks, by the beginnings of their names, and by the way from one to another.
-/

namespace ChangelogSql.Repository

open Text (ascii)
open Files

namespace Work

/-- The names of all that is kept which begin in a way. -/
def namesLike (start : Bytes) : Work (List Id) := do
  let session ← get
  let directory := Bytes.ofString "objects/" ++ start.take 2
  match session.view.stat (session.site.path directory) with
  | .ok (.directory _ entries) =>
    let names := entries.toList.map fun entry => start.take 2 ++ entry.1.bytes
    return names.filter (start.isPrefixOf ·)
  | _ => return []

/-- The reference that a plain name stands for, with what it leads to. -/
def referenceNamed? (name : Bytes) : Work (Option (Bytes × Id)) := do
  let starts := ["", "refs/", "refs/tags/", "refs/heads/", "refs/remotes/"]
  for start in starts do
    let isSpecial := name.all fun b => Text.Ascii.isUpper b || b = ascii '_'
    if start ≠ "" || (Bytes.ofString "refs/").isPrefixOf name || isSpecial then
      let full := Bytes.ofString start ++ name
      match ← reference? full with
      | some id => return some (full, id)
      | none => pure ()
  return none

/-- The branch that was left the last time but so many. -/
def branchBefore? (count : Nat) : Work (Option Bytes) := do
  let moves ← journal (Bytes.ofString "HEAD")
  let left := moves.filterMap fun move =>
    (Text.afterBlock? (Bytes.ofString "checkout: moving from ") move.reason).map fun rest =>
      rest.takeWhile (· ≠ 0x20)
  return left[count - 1]?

/-- What a reference led to so many changes ago. -/
def formerly? (reference : Bytes) (count : Nat) : Work (Option Id) := do
  let moves ← journal reference
  match moves[count]? with
  | some move => return some move.new
  | none =>
    if count = moves.length && count ≠ 0 then
      return (moves.getLast?.map Move.old).filter (· ≠ noId)
    else return none

/-- What a name with a number of changes behind it leads to. -/
def dated? (base number : Bytes) : Work (Option Id) := do
  match Text.Ascii.integer? number with
  | none => return none
  | some number =>
    if number < 0 then
      match ← branchBefore? number.natAbs with
      | some name => return (← referenceNamed? name).map Prod.snd
      | none => return none
    else
      let reference? : Option Bytes ←
        if base = [] then
          match ← head with
          | .reference name => pure (some name)
          | .detached _ => pure (some (Bytes.ofString "HEAD"))
        else if base = Bytes.ofString "HEAD" then pure (some base)
        else do pure ((← referenceNamed? base).map Prod.fst)
      match reference? with
      | some reference => formerly? reference number.natAbs
      | none => return none

/-- What a plain name leads to. -/
def named? (name : Bytes) : Work (Option Id) := do
  let base := name.takeWhile (· ≠ ascii '@')
  match Text.afterBlock? (Bytes.ofString "@\x7b") (name.drop base.length) with
  | some rest => dated? base (rest.takeWhile (· ≠ 0x7D))
  | none =>
    if name = Bytes.ofString "HEAD" || name = Bytes.ofString "@" then headId?
    else
      match ← referenceNamed? name with
      | some (_, id) => return some id
      | none =>
        let isHex := name.all fun b => (Text.Ascii.hexDigit? b).isSome
        if isHex && 4 ≤ name.length && name.length ≤ 40 then
          match ← namesLike (name.map Text.Ascii.lower) with
          | [id] => return some id
          | _ => return if name.length = 40 then some name else none
        else return none

/-- What is meant by a mark, or the thing itself. -/
def peeled? (session : Session) : Nat → Id → Option (Id × Object)
  | 0, _ => none
  | fuel + 1, id =>
    match object? session id with
    | some (.mark mark) => peeled? session fuel mark.target
    | some object => some (id, object)
    | none => none

/-- How many marks lead from one to another at most. -/
def markLimit : Nat := 10

/-- The commit that something leads to. -/
def commitOf? (id : Id) : Work (Option (Id × Commit)) := do
  match peeled? (← get) markLimit id with
  | some (id, .commit commit) => return some (id, commit)
  | _ => return none

/-- The directory that something leads to. -/
def treeOf? (id : Id) : Work (Option Id) := do
  match peeled? (← get) markLimit id with
  | some (_, .commit commit) => return some commit.tree
  | some (id, .tree _) => return some id
  | _ => return none

/-- The commit that lies so many first parents behind another. -/
def ancestor? : Nat → Id → Work (Option Id)
  | 0, id => do return (← commitOf? id).map Prod.fst
  | count + 1, id => do
    match ← commitOf? id with
    | some (_, commit) =>
      match commit.parents with
      | parent :: _ => ancestor? count parent
      | [] => return none
    | none => return none

/-- What the signs behind a name lead to. `fuel` bounds their number. -/
def followed? : Nat → Id → Bytes → Work (Option Id)
  | 0, _, _ => return none
  | _, id, [] => return some id
  | fuel + 1, id, sign :: rest => do
    if sign = ascii '~' then
      let digits := rest.takeWhile Text.Ascii.isDigit
      let count := if digits = [] then 1 else Text.Ascii.value 10 digits
      match ← ancestor? count id with
      | some id => followed? fuel id (rest.drop digits.length)
      | none => return none
    else if sign = ascii '^' then
      if rest.head? = some 0x7B then
        let word := (rest.drop 1).takeWhile (· ≠ 0x7D)
        let rest := rest.drop (word.length + 2)
        let found : Option Id ←
          match Bytes.shown word with
          | "tree" => treeOf? id
          | "commit" => do pure ((← commitOf? id).map Prod.fst)
          | "" => do pure ((peeled? (← get) markLimit id).map Prod.fst)
          | "object" => pure (some id)
          | _ => pure none
        match found with
        | some id => followed? fuel id rest
        | none => return none
      else
        let digits := rest.takeWhile Text.Ascii.isDigit
        let number := if digits = [] then 1 else Text.Ascii.value 10 digits
        match ← commitOf? id with
        | none => return none
        | some (own, commit) =>
          let found? := if number = 0 then some own else commit.parents[number - 1]?
          match found? with
          | some id => followed? fuel id (rest.drop digits.length)
          | none => return none
    else return none

/-- What a name with the signs behind it leads to. -/
def resolved? (text : Bytes) : Work (Option Id) := do
  let name := text.takeWhile fun b => b ≠ ascii '~' && b ≠ ascii '^'
  match ← named? name with
  | some id => followed? (text.length + 1) id (text.drop name.length)
  | none => return none

/-- What stands at a path of a directory that is kept. -/
def entryAt? (session : Session) : Id → List Bytes → Option (Kind × Id)
  | tree, [] => some (.directory, tree)
  | tree, name :: rest =>
    match object? session tree with
    | some (.tree entries) =>
      match entries.find? fun entry => entry.name = name with
      | some entry =>
        if rest = [] then some (entry.kind, entry.id) else entryAt? session entry.id rest
      | none => none
    | _ => none

/-- A revision in front of a path, where a text is that. -/
def pathParts? (text : Bytes) : Option (Bytes × Bytes) :=
  let revision := text.takeWhile (· ≠ ascii ':')
  match text.drop revision.length with
  | [] => none
  | _ :: path => some (revision, path)

/-- A path behind a revision as it is named from the top. -/
def fromRevision (path : Bytes) : Work Bytes := do
  let isRelative := path = [0x2E] || (Bytes.ofString "./").isPrefixOf path
    || (Bytes.ofString "../").isPrefixOf path
  if isRelative then return (Scope.fromTop? (← site) path).getD path
  else return (path.reverse.dropWhile (· = separator)).reverse

/-- What a text means: a revision, or what stands at a path of one or of what is staged. -/
def meant? (text : Bytes) : Work (Option Id) := do
  match pathParts? text with
  | none => resolved? text
  | some ([], path) =>
    let path := (Text.afterBlock? (Bytes.ofString "0:") path).getD path
    return ((← staged).find? (← fromRevision path)).map Leaf.id
  | some (revision, path) =>
    match ← resolved? revision with
    | none => return none
    | some id =>
      match ← treeOf? id with
      | none => return none
      | some tree =>
        let path ← fromRevision path
        let segments := (Text.splitAt separator path).filter (· ≠ [])
        return (entryAt? (← get) tree segments).map Prod.snd

/-- Says that a text means nothing, and ends the command. -/
def unknownRevision {α : Type} (text : Bytes) : Work α := do
  match pathParts? text with
  | some (revision, path) =>
    if revision ≠ [] && (← resolved? revision).isSome then
      let site ← site
      let outside := ((← view).linkStat (site.outer path)).toOption.isSome
      if outside then
        die (Bytes.ofString "path '" ++ path ++ Bytes.ofString "' exists on disk, but not in '"
          ++ revision ++ Bytes.ofString "'")
      else
        die (Bytes.ofString "path '" ++ path ++ Bytes.ofString "' does not exist in '" ++ revision
          ++ Bytes.ofString "'")
    else if revision = [] then
      die (Bytes.ofString "path '" ++ path
        ++ Bytes.ofString "' does not exist (neither on disk nor in the index)")
    else die (Bytes.ofString "invalid object name '" ++ revision ++ Bytes.ofString "'.")
  | none =>
    die (Bytes.ofString "ambiguous argument '" ++ text
      ++ Bytes.ofString ("': unknown revision or path not in the working tree.\n"
        ++ "Use '--' to separate paths from revisions, like this:\n"
        ++ "'git <command> [<revision>...] -- [<file>...]'"))

/-- What a text means, which must be something. -/
def meant (text : Bytes) : Work Id := do
  match ← meant? text with
  | some id => return id
  | none => unknownRevision text

/-- How a head without a branch is called: by what it was brought to, whether or not it is still
there. -/
def detachedName (id : Id) : Work Bytes := do
  let moves ← journal (Bytes.ofString "HEAD")
  let goals := moves.filterMap fun move =>
    (Text.afterBlock? (Bytes.ofString "checkout: moving from ") move.reason).map fun rest =>
      (move.new, (rest.dropWhile (· ≠ 0x20)).drop 4)
  match goals.head? with
  | none => return Bytes.ofString "Not currently on any branch."
  | some (goal, text) =>
    let head := Bytes.ofString "HEAD"
    let text := if text = head then goal else if text = [ascii '@'] then head else text
    let found? : Option Bytes ←
      match ← referenceNamed? text with
      | some (name, reached) =>
        let peeled := ((← commitOf? reached).map Prod.fst).getD reached
        pure (if peeled = goal then some name else none)
      | none => pure none
    let plain (name : Bytes) : Bytes :=
      ((Text.afterBlock? (Bytes.ofString "refs/tags/") name).or
        (Text.afterBlock? (Bytes.ofString "refs/remotes/") name)).getD name
    let name := (found?.map plain).getD (short goal)
    let word := if goal = id then "HEAD detached at " else "HEAD detached from "
    return Bytes.ofString word ++ name

/-- The commit that a text means. -/
def commitNamed (text : Bytes) : Work (Id × Commit) := do
  match ← commitOf? (← meant text) with
  | some found => return found
  | none => unknownRevision text

end Work

end ChangelogSql.Repository
