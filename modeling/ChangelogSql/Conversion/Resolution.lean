import ChangelogSql.Manifest
import ChangelogSql.Toolchain
import ChangelogSql.Version

/-!
From a changelog to the Liquibase version of its project. Listing dependencies
is slow, so a version once found for a manifest is remembered; two spellings of
a manifest are one manifest, and nothing is remembered of an attempt that
failed.
-/

namespace ChangelogSql.Conversion

variable {σ : Type}

/-- The versions found so far, each with the manifest it was found for. -/
structure Memo where
  entries : List (Path × String)

namespace Memo

/-- Nothing is known yet. -/
def empty : Memo :=
  ⟨[]⟩

/-- The version known for a manifest. -/
def find? (memo : Memo) (manifest : Path) : Option String :=
  (memo.entries.find? fun entry => entry.1.sameAs manifest).map (·.2)

/-- The memo with one more manifest. -/
def insert (memo : Memo) (manifest : Path) (version : String) : Memo :=
  ⟨memo.entries ++ [(manifest, version)]⟩

/-- How many manifests are known. -/
def size (memo : Memo) : Nat :=
  memo.entries.length

end Memo

/-- The manifest a changelog belongs to, its version, and whether the version was remembered. -/
structure Resolution where
  manifest : Path
  version : String
  cached : Bool
  deriving DecidableEq

/-- Finds the version for a changelog below `root`. -/
def resolve (tools : Toolchain σ) (root changelog : Path) (memo : Memo) :
    Action σ (Resolution × Memo) := do
  let start := changelog.parent?.getD root
  match Manifest.nearest? (← Action.view) start root with
  | none => throw (.manifestNotFound changelog)
  | some manifest =>
    match memo.find? manifest with
    | some version =>
      Action.note [.debug .resolution ("Version cache hit for " ++ manifest.shown)]
      return (⟨manifest, version, true⟩, memo)
    | none =>
      let listing ← tools.askDependencies (manifest.parent?.getD root)
      match Version.inListing? listing with
      | none => throw (.versionNotFound manifest)
      | some version => return (⟨manifest, version, false⟩, memo.insert manifest version)

/-- The memo with which the next changelog is resolved. A failed attempt leaves it as it was. -/
def Memo.after (memo : Memo) : Except Failure (Resolution × Memo) → Memo
  | .ok (_, memo) => memo
  | .error _ => memo

end ChangelogSql.Conversion
