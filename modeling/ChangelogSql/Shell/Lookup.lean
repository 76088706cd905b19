import ChangelogSql.Shell.State

/-!
Programs by their names. A name with a separator in it is a path; any other is
looked for in the places that a variable lists, and where it was found before it
is not looked for again.
-/

namespace ChangelogSql.Shell

open Text (ascii)
open Files Kernel

/-- The places where programs are looked for where nothing is said about that. -/
def usualPlaces : String :=
  "/usr/local/sbin:/usr/local/bin:/usr/sbin:/usr/bin:/sbin:/bin"

/-- The files that a name can mean, as a list of places says. -/
def candidates (places name : Bytes) : List Bytes :=
  (Text.splitAt (ascii ':') places).map fun place =>
    if place = [] then name else place ++ separator :: name

/-- Where a program is. -/
inductive Whereabouts where
  /-- The name is a path. -/
  | here
  /-- One of the places where programs are looked for. -/
  | place (index : Nat)
  | nowhere (fault : Fault)
  deriving DecidableEq

/-- The first file that a name can mean, from a list of them. -/
def searchFiles (view : View) : Nat → Fault → List Bytes → Whereabouts
  | _, fault, [] => .nowhere fault
  | index, fault, path :: rest =>
    match view.stat ⟨path⟩ with
    | .ok (.file _) => .place index
    | .ok _ => searchFiles view (index + 1) .permissionDenied rest
    | .error other =>
      let fault := if other = .notFound || other = .notDirectory then fault else other
      searchFiles view (index + 1) fault rest

/-- A refusal to start a program, in words. -/
def startFailure (fault : Fault) : String :=
  if fault = .notFound || fault = .notDirectory then "not found" else fault.reason

namespace State

/-- The places where programs are looked for. -/
def places (state : State) : Bytes :=
  state.valueOf "PATH"

end State

/-- Finds a program. Where it was found is kept in mind unless other places than usual are given. -/
def findProgram (name : Bytes) (places? : Option Bytes) : Work Whereabouts := do
  if name.contains separator then return .here
  else
    let state ← get
    match places?, state.found.lookup name with
    | none, some index => return .place index
    | _, _ =>
      let view ← Work.ask Kernel.Request.view
      let found := searchFiles view 0 .notFound (candidates (places?.getD state.places) name)
      match places?, found with
      | none, .place index =>
        modify fun state => { state with found := state.found ++ [(name, index)] }
        return found
      | _, _ => return found

end ChangelogSql.Shell
