import ChangelogSql.Shell.Option
import ChangelogSql.Shell.Lookup

/-!
The working directory of a shell. The shell keeps in mind the path by which it
has gone there, in which links are steps like others; a path without links is
told only where it is asked for.
-/

namespace ChangelogSql.Shell

open Text (ascii)
open Files Kernel

namespace Directory

/-- The segments of a path after those of another one. `..` takes away the one before it. -/
def extended (base : List Bytes) (path : Bytes) : List Bytes :=
  (Text.splitAt separator path).foldl
    (fun segments segment =>
      if segment = [] || segment = [ascii '.'] then segments
      else if segment = [ascii '.', ascii '.'] then segments.dropLast
      else segments ++ [segment])
    base

/-- The path by which one gets to another one from a directory. -/
def onward (here path : Bytes) : Bytes :=
  let isDouble (bytes : Bytes) : Bool :=
    match bytes with
    | 0x2F :: 0x2F :: 0x2F :: _ => false
    | 0x2F :: 0x2F :: _ => true
    | _ => false
  let origin := if path.head? = some separator then path else here
  let base :=
    if path.head? = some separator then [] else extended [] here
  let lead := if isDouble origin then [separator, separator] else [separator]
  lead ++ Text.joinWith separator (extended base path)

/-- The path is not looked for in the places that a variable lists. -/
def isDirect (path : Bytes) : Bool :=
  match path with
  | 0x2F :: _ | [0x2E] | 0x2E :: 0x2F :: _ | [0x2E, 0x2E] | 0x2E :: 0x2E :: 0x2F :: _ => true
  | _ => false

/-- The path of the working directory without links, where there is one. -/
def physical : Work Bytes := do
  match (← Work.ask Kernel.Request.view).currentDirectory with
  | .ok path => return path.bytes
  | .error fault =>
    Work.report (Bytes.ofString ("getcwd() failed: " ++ fault.reason))
    return []

/-- A path without links is wanted, as the last option says. -/
def wantsPhysical (given : List GivenOption) : Bool :=
  given.getLast?.map Prod.fst = some 'P'

/-- Gives a variable a value that programs are given too. -/
def assignGiven (name : String) (value : Bytes) : Work Unit :=
  Work.alter (Bytes.ofString name) fun before =>
    { before with value? := some value, isExported := true }

/-- Keeps in mind where the shell is now. -/
def settle (path : Bytes) (keepsOld : Bool) : Work Unit := do
  if keepsOld then
    assignGiven "OLDPWD" (← get).directory
  modify fun state => { state with directory := path }
  assignGiven "PWD" path

/-- Goes to a directory, and tells whether that was possible. -/
def goTo (isPhysical : Bool) (path : Bytes) : Work Bool := do
  let here := (← get).directory
  let logical? :=
    if isPhysical || (here = [] && path.head? ≠ some separator) then none
    else some (onward here path)
  match ← Work.ask (Kernel.Request.enter ⟨logical?.getD path⟩) with
  | .error _ => return false
  | .ok () =>
    settle (← match logical? with
      | some logical => pure logical
      | none => physical) true
    return true

/-- The first of some paths that leads to a directory. -/
def firstDirectory? (view : View) (paths : List (Bytes × Bool)) : Option (Bytes × Bool) :=
  paths.find? fun entry => view.isDirectory ⟨entry.1⟩

/-- Changes the working directory. -/
def change (arguments : List Bytes) : Work Nat := do
  let (given, operands) ← optionsOf "LP" "" arguments
  let state ← get
  let isBack := operands.head? = some [ascii '-']
  let target :=
    match operands.head? with
    | none => state.valueOf "HOME"
    | some operand => if isBack then state.valueOf "OLDPWD" else operand
  let view ← Work.ask Kernel.Request.view
  let target' := if target = [] then [ascii '.'] else target
  let (path, isTold) :=
    if isDirect target' then (target', false)
    else
      let listed := (Text.splitAt (ascii ':') (state.valueOf "CDPATH")).map fun place =>
        if place = [] then (target', false) else (place ++ separator :: target', true)
      (firstDirectory? view listed).getD (target', false)
  if ← goTo (wantsPhysical given) path then
    if isTold || isBack then
      Work.put ((← get).directory ++ [0x0A])
    return 0
  else Work.fail (Bytes.ofString "can't cd to " ++ target)

/-- Puts out the working directory. -/
def tell (arguments : List Bytes) : Work Nat := do
  let (given, _) ← optionsOf "LP" "" arguments
  let path ← if wantsPhysical given then physical else pure (← get).directory
  Work.put (path ++ [0x0A])
  return 0

end Directory

end ChangelogSql.Shell
