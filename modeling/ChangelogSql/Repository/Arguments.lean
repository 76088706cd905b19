import ChangelogSql.Repository.Revision
import ChangelogSql.Repository.Setting
import ChangelogSql.Utility.Option

/-!
The arguments of version control commands: options, revisions and paths. Two
dashes come between revisions and paths; where they are missing, an argument is a
revision if it can be one, and everything from the first path on is a path.
-/

namespace ChangelogSql.Repository

open Text (ascii)
open Files
open Utility (Form Given toggle setting)

namespace Work

/-- Says that a command was not called rightly, and ends it. -/
def misused {α : Type} (text : Bytes) : Work α :=
  fail 129 text

/-- The options and operands of a command. -/
def options (forms : List Form) (arguments : List Bytes) : Work Given := do
  match Utility.Options.ofArguments forms true arguments with
  | .ok given => return given
  | .error refusal => misused refusal

/-- Arguments in front of two dashes, and those behind them, where there are any. -/
def divided (arguments : List Bytes) : List Bytes × Option (List Bytes) :=
  let front := arguments.takeWhile (· ≠ Bytes.ofString "--")
  match arguments.drop front.length with
  | [] => (front, none)
  | _ :: behind => (front, some behind)

/-- Scopes that arguments are. -/
def scopes (arguments : List Bytes) : Work (List Scope) := do
  if arguments.contains [] then
    die (Bytes.ofString ("empty string is not a valid pathspec. please use . instead if you meant "
      ++ "to match all paths"))
  else arguments.mapM Scope.ofArgument

/-- A path stands in the working tree. -/
def stands (path : Bytes) : Work Bool := do
  let view ← view
  let site ← site
  match Scope.fromTop? site path with
  | some inner => return (view.linkStat (site.outer inner)).toOption.isSome
  | none => return false

/-- An argument can be one for paths: something stands there, or it is a pattern. -/
def canBePath (argument : Bytes) : Work Bool := do
  if Glob.isSpecial argument || argument.head? = some (ascii ':') then return true
  else stands argument

/-- Revisions in front and the paths behind them, without two dashes between. -/
def partsAmong : List Bytes → Work (List Bytes × List Bytes)
  | [] => return ([], [])
  | argument :: rest => do
    let name := (Text.afterBlock? [ascii '^'] argument).getD argument
    let ends := name.takeWhile (· ≠ ascii '.')
    let isRange := Text.occursIn [ascii '.', ascii '.'] argument
    let isKnown ←
      if isRange then do pure (ends = [] || (← meant? ends).isSome) else do
        pure (← meant? name).isSome
    if isKnown then
      if (← stands argument) && !isRange then
        die (Bytes.ofString "ambiguous argument '" ++ argument
          ++ Bytes.ofString "': both revision and filename")
      else
        let (revisions, paths) ← partsAmong rest
        return (argument :: revisions, paths)
    else
      for path in argument :: rest do
        if !(← canBePath path) then
          unknownRevision path
      return ([], argument :: rest)

/-- The revisions among operands, and the scopes. `behind?` are those behind two dashes. -/
def partsOf (front : List Bytes) (behind? : Option (List Bytes)) :
    Work (List Bytes × List Scope) := do
  match behind? with
  | some behind => return (front, ← scopes behind)
  | none =>
    let (revisions, paths) ← partsAmong front
    return (revisions, ← scopes paths)

/-- Everything that has not been read of the input. -/
def input : Work Bytes := do
  return (← get).input

/-- The content of a file, or the input where its name is a dash. -/
def fileOrInput (path : Bytes) : Work Bytes := do
  if path = [ascii '-'] then input
  else
    match (← view).read ⟨path⟩ with
    | .ok bytes => return bytes
    | .error fault =>
      die (Bytes.ofString "could not read log file '" ++ path ++ Bytes.ofString "': "
        ++ Bytes.ofString fault.reason)

end Work

end ChangelogSql.Repository
