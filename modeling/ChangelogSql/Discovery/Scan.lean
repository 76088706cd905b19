import ChangelogSql.Discovery.Changelog
import ChangelogSql.Discovery.Walk
import ChangelogSql.Failure
import ChangelogSql.Log.Record

/-!
Finding the changelogs below a root. Every changelog the walk comes to is handed
to a visitor at once, so that a refusal by the visitor ends the walk before
anything later is read. Entries that cannot be looked at are passed over with a
warning; a candidate that cannot be read ends the walk.
-/

namespace ChangelogSql.Discovery

open Files

/-- What becomes of one entry of a walk. -/
inductive Verdict where
  | other
  | buildOutput
  | unreadable (fault : Fault)
  | unmarked
  | changelog
  deriving DecidableEq

/-- Looks at one entry. A file is opened only when its name makes it a candidate. -/
def judge (view : View) (root path : Path) : Verdict :=
  if !view.isFile path || !hasExtension path then .other
  else if isBuildOutput root path then .buildOutput
  else
    match looksLikeChangelog view path with
    | .error fault => .unreadable fault
    | .ok false => .unmarked
    | .ok true => .changelog

/-- A finished walk: how many changelogs the visitor took or what ended it, the visitor's state, and
the records left on the way. -/
structure Scan (σ : Type) where
  outcome : Except Failure Nat
  state : σ
  records : List Record

/-- A visitor answers each changelog from what it knows so far. -/
abbrev Visitor (σ : Type) := Path → σ → Except Failure Unit × σ

namespace Scan

variable {σ : Type}

/-- The scan with a record in front. -/
def noting (record : Record) (scan : Scan σ) : Scan σ :=
  { scan with records := record :: scan.records }

/-- Goes through the visits of a walk; `found` changelogs have been taken before. -/
def along (view : View) (root : Path) (visitor : Visitor σ) : List Visit → σ → Nat → Scan σ
  | [], state, found => ⟨.ok found, state, []⟩
  | .unreadable path fault :: visits, state, found =>
    noting (.warn .discovery ("Skipping unreadable entry: IO error for operation on "
      ++ path.shown ++ ": " ++ fault.message)) (along view root visitor visits state found)
  | .entry path :: visits, state, found =>
    match judge view root path with
    | .other | .unmarked => along view root visitor visits state found
    | .buildOutput =>
      noting (.debug .discovery ("Ignoring build output " ++ path.shown))
        (along view root visitor visits state found)
    | .unreadable fault => ⟨.error (.unreadable path fault), state, []⟩
    | .changelog =>
      match visitor path state with
      | (.error failure, state) => ⟨.error failure, state, []⟩
      | (.ok (), state) => along view root visitor visits state (found + 1)

end Scan

/-- Hands every changelog below `root` to the visitor, in walk order. -/
def scan {σ : Type} (view : View) (root : Path) (visitor : Visitor σ) (state : σ) : Scan σ :=
  Scan.along view root visitor (visits view root) state 0

/-- The changelogs below `root`, in walk order. -/
def changelogs (view : View) (root : Path) : Except Failure (List Path) × List Record :=
  let scan := scan view root (fun path found => (.ok (), found ++ [path])) []
  (scan.outcome.map fun _ => scan.state, scan.records)

end ChangelogSql.Discovery
