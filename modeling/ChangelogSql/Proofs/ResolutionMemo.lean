import ChangelogSql.Conversion.Resolution
import ChangelogSql.Proofs.CallAccounts
import ChangelogSql.Proofs.PathComponents

/-! Remembering versions does not show: a manifest is listed until a listing
gives a version, and that version stays. The rules by which one changelog is
resolved are given without the memo's entries; the attempts of one resolver may
meet any disk and any collaborators, each other ones than the last. -/
namespace ChangelogSql.ResolutionMemo
open Files Conversion CallAccounts PathComponents

variable {σ : Type}

/-- The manifest of a changelog, as the disk is at one moment. -/
def manifestAt (cwd : Location) (root changelog : Path) (now : Moment σ) : Option Path :=
  Manifest.nearest? (now.view cwd) (changelog.parent?.getD root) root

/-- The name of a manifest. -/
def manifestName : Name :=
  ⟨Manifest.fileName.bytes, by decide⟩

/-- How a changelog is resolved where `known` tells the versions of the manifests
met before: only a manifest that is not among them is listed, in its directory. -/
inductive Resolving (tools : Toolchain σ) (cwd : Location) (root : Path)
    (known : Path → Option String) (changelog : Path) (now : Moment σ) :
    List (Call σ) → Except Failure Resolution → Moment σ → Prop
  | orphan (nowhere : manifestAt cwd root changelog now = none) :
      Resolving tools cwd root known changelog now [] (.error (.manifestNotFound changelog)) now
  | remembered (nearest : manifestAt cwd root changelog now = some manifest)
      (met : known manifest = some version) :
      Resolving tools cwd root known changelog now [] (.ok ⟨manifest, version, true⟩) now
  | unlisted {failure : Failure} (nearest : manifestAt cwd root changelog now = some manifest)
      (new : known manifest = none) (directory : manifest.parent? = some project)
      (asked : Answered tools cwd now (.dependencies project (.error failure)) after) :
      Resolving tools cwd root known changelog now
        [⟨now, .dependencies project (.error failure), after⟩] (.error failure) after
  | unversioned (nearest : manifestAt cwd root changelog now = some manifest)
      (new : known manifest = none) (directory : manifest.parent? = some project)
      (asked : Answered tools cwd now (.dependencies project (.ok listing)) after)
      (silent : Version.inListing? listing = none) :
      Resolving tools cwd root known changelog now
        [⟨now, .dependencies project (.ok listing), after⟩] (.error (.versionNotFound manifest)) after
  | listed (nearest : manifestAt cwd root changelog now = some manifest)
      (new : known manifest = none) (directory : manifest.parent? = some project)
      (asked : Answered tools cwd now (.dependencies project (.ok listing)) after)
      (found : Version.inListing? listing = some version) :
      Resolving tools cwd root known changelog now
        [⟨now, .dependencies project (.ok listing), after⟩] (.ok ⟨manifest, version, false⟩) after

variable {tools : Toolchain σ} {cwd : Location} {root changelog manifest other : Path}
variable {now after : Moment σ} {calls : List (Call σ)} {memo : Memo} {version : String}

/-- A manifest that was found lies in a directory. -/
theorem manifest_directory (nearest : manifestAt cwd root changelog now = some manifest) :
    ∃ project, manifest.parent? = some project := by
  have member := List.mem_of_find?_eq_some nearest
  obtain ⟨directory, -, rfl⟩ := List.mem_map.mp member
  have written : (directory.join Manifest.fileName).components =
      directory.components ++ [.normal Manifest.fileName.bytes] :=
    components_join directory Manifest.fileName.bytes (by decide)
  cases above : (directory.join Manifest.fileName).parent? with
  | some project => exact ⟨project, rfl⟩
  | none =>
    rw [parent_eq_none_iff, written] at above
    rcases above with empty | top
    · simp at empty
    · have last := congrArg List.getLast? top
      simp at last

/-- Whatever the disk and the collaborators are, one of the rules applies. -/
theorem resolving_total (tools : Toolchain σ) (cwd : Location) (root : Path)
    (known : Path → Option String) (changelog : Path) (now : Moment σ) :
    ∃ calls outcome after, Resolving tools cwd root known changelog now calls outcome after := by
  cases nearest : manifestAt cwd root changelog now with
  | none => exact ⟨_, _, _, .orphan nearest⟩
  | some manifest =>
    cases met : known manifest with
    | some version => exact ⟨_, _, _, .remembered nearest met⟩
    | none =>
      obtain ⟨project, directory⟩ := manifest_directory nearest
      let reply := tools.dependencies project (now.view cwd) now.memory
      let after : Moment σ := ⟨reply.disk, reply.memory⟩
      cases answer : reply.answer with
      | error failure => exact ⟨_, _, after, .unlisted nearest met directory ⟨answer, rfl, rfl⟩⟩
      | ok listing =>
        cases found : Version.inListing? listing with
        | none => exact ⟨_, _, after, .unversioned nearest met directory ⟨answer, rfl, rfl⟩ found⟩
        | some version => exact ⟨_, _, after, .listed nearest met directory ⟨answer, rfl, rfl⟩ found⟩

/-- What is remembered once a changelog has been resolved. -/
def learned (memo : Memo) (found : Resolution) : Memo :=
  if found.cached then memo else memo.insert found.manifest found.version

/-- The resolver goes by the rules, with its memo as what is known. -/
theorem resolve_performs
    (resolving : Resolving tools cwd root memo.find? changelog now calls outcome after) :
    Performs tools cwd (resolve tools root changelog memo) now calls
      (outcome.map fun found => (found, learned memo found)) after := by
  unfold resolve
  cases resolving with
  | orphan nowhere =>
    refine Performs.view.after_quiet ?_
    simp only [manifestAt] at nowhere
    simp only [nowhere]
    exact .throw _
  | remembered nearest met =>
    refine Performs.view.after_quiet ?_
    simp only [manifestAt] at nearest
    simp only [nearest, met]
    exact (Performs.note _).after_quiet (.pure _)
  | unlisted nearest new directory asked =>
    refine Performs.view.after_quiet ?_
    simp only [manifestAt] at nearest
    simp only [nearest, new, directory, Option.getD_some]
    exact (Performs.askDependencies asked).bind_error
  | unversioned nearest new directory asked silent =>
    refine Performs.view.after_quiet ?_
    simp only [manifestAt] at nearest
    simp only [nearest, new, directory, Option.getD_some]
    refine (Performs.askDependencies asked).before_quiet ?_
    simp only [silent]
    exact .throw _
  | listed nearest new directory asked found =>
    refine Performs.view.after_quiet ?_
    simp only [manifestAt] at nearest
    simp only [nearest, new, directory, Option.getD_some]
    refine (Performs.askDependencies asked).before_quiet ?_
    simp only [found]
    exact .pure _

/-- A version is either remembered, without a call, or read from one listing of a
manifest that was not known. -/
theorem resolving_found {known : Path → Option String}
    (resolving : Resolving tools cwd root known changelog now calls (.ok found) after) :
    manifestAt cwd root changelog now = some found.manifest ∧
      ((found.cached = true ∧ known found.manifest = some found.version ∧ calls = [] ∧ after = now) ∨
        (found.cached = false ∧ known found.manifest = none ∧
          ∃ project listing, found.manifest.parent? = some project ∧
            calls = [⟨now, .dependencies project (.ok listing), after⟩] ∧
            Answered tools cwd now (.dependencies project (.ok listing)) after ∧
            Version.inListing? listing = some found.version)) := by
  cases resolving with
  | remembered nearest met => exact ⟨nearest, .inl ⟨rfl, met, rfl, rfl⟩⟩
  | listed nearest new directory asked read =>
    exact ⟨nearest, .inr ⟨rfl, new, _, _, directory, rfl, asked, read⟩⟩

theorem sameAs_congr (same : path.sameAs path' = true) (entry : Path) :
    entry.sameAs path = entry.sameAs path' := by
  simp only [Path.sameAs, decide_eq_true_eq] at same ⊢
  rw [same]

/-- All spellings of a manifest are remembered alike. -/
theorem find_congr (same : manifest.sameAs other = true) : memo.find? manifest = memo.find? other := by
  simp only [Memo.find?, sameAs_congr same]

/-- A manifest that is put down is known from then on, and no other manifest is. -/
theorem find_insert (new : memo.find? manifest = none) :
    (memo.insert manifest version).find? other =
      if manifest.sameAs other then some version else memo.find? other := by
  have appended : (memo.insert manifest version).find? other =
      (memo.find? other).or (if manifest.sameAs other then some version else none) := by
    simp only [Memo.find?, Memo.insert, List.find?_append, List.find?_cons, List.find?_nil]
    cases memo.entries.find? fun entry => entry.1.sameAs other <;>
      cases manifest.sameAs other <;> rfl
  rw [appended]
  by_cases same : manifest.sameAs other = true
  · rw [← find_congr same, new]
    rfl
  · simp [same]

end ChangelogSql.ResolutionMemo
