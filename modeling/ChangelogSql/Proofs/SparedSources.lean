import ChangelogSql.Proofs.DiscoveryExactness
import ChangelogSql.Proofs.RunAccounting
import ChangelogSql.Proofs.WrittenFiles
import Mathlib.Data.List.Find

/-! What a run reads of a tree, and what may be written without its noticing. There are
paths by which it gets at the changelogs and the manifests that the tree has at the
start. Whatever files are written, it finds and reads the same by them as long as none
of them leads to such a file, be it through links, and no new entry of the tree looks
like a changelog. -/
namespace ChangelogSql.SparedSources
open Files Discovery PathDescent PlacePaths TidyTree TreeWalk DiscoveryExactness
open CallAccounts RunCourse RunAccounting ResolutionMemo WrittenFiles

variable {σ τ : Type}

/-- The paths by which a run gets at its sources in the tree as it is at the start: those
of entries below the root with the extension of a changelog, and those at which the
manifests of the changelogs are looked for. -/
inductive Sought (start : View) (root : Path) : Path → Prop
  | source (stands : Below start root names) (named : hasExtension (descend root names) = true) :
      Sought start root (descend root names)
  | manifest (found : (changelogs start root).1 = .ok paths) (member : changelog ∈ paths)
      (above : directory ∈ Manifest.directories (changelog.parent?.getD root) root) :
      Sought start root (directory.join Manifest.fileName)

/-- The sources are the same in two views: the same entries could be changelogs, the same
paths lead to files, and these have the same content. -/
structure SameSources (start : View) (root : Path) (view view' : View) : Prop where
  places : ∀ names, hasExtension (descend root names) = true →
    (Below view root names ↔ Below view' root names)
  files : ∀ path, Sought start root path → view.isFile path = view'.isFile path
  contents : ∀ path, Sought start root path → view.isFile path = true → view.read path = view'.read path

/-- What happened in between has left the sources alone, and the jars that were there. -/
structure Spares (settings : Settings) (start before after : View) : Prop where
  sources : SameSources start settings.root before after
  jars : ∀ version, before.isFile (jarFor settings version).path = true →
    after.isFile (jarFor settings version).path = true

/-- A path leads to where a file is written, or to a file that stands there, too. -/
def Hits (view : View) (spots : List Location) (path : Path) : Prop :=
  ∃ spot, placeOf? view path = some spot ∧
    (spot ∈ spots ∨ ∃ number, view.disk.node? spot = some (.file number) ∧ StandsAt view.disk spots number)

/-- A change that does no harm: some files are written, none of them as an entry below the
root with the extension of a changelog, and no path by which the run gets at its
sources leads to one of them. -/
inductive Gentle (settings : Settings) (start before : View) : View → Prop
  | writing (written : Written before.disk disk spots)
      (outside : ∀ place names, placeOf? before settings.root = some place →
        hasExtension (descend settings.root names) = true → place ++ names ∉ spots)
      (apart : ∀ path, Sought start settings.root path → ¬ Hits before spots path) :
      Gentle settings start before ⟨disk, before.cwd⟩

/-- A call does no harm. What it has fetched is there afterwards. -/
structure Harmless (cwd : Location) (settings : Settings) (start : View) (call : Call σ) : Prop where
  gentle : Gentle settings start (call.before.view cwd) (call.after.view cwd)
  fetched : ∀ path, fetchesTo path call = true → (call.after.view cwd).isFile path = true

variable {start view view' view'' : View} {root : Path} {settings : Settings}

theorem Gentle.refl (settings : Settings) (start view : View) : Gentle settings start view view := by
  refine .writing (.refl view.disk) (by simp) ?_
  rintro path sought ⟨spot, leads, none | ⟨number, there, spot', none, -⟩⟩ <;> cases none

theorem SameSources.refl (start : View) (root : Path) (view : View) : SameSources start root view view :=
  ⟨fun _ _ => Iff.rfl, fun _ _ => rfl, fun _ _ _ => rfl⟩

theorem SameSources.symm (same : SameSources start root view view') : SameSources start root view' view :=
  ⟨fun names named => (same.places names named).symm, fun path sought => (same.files path sought).symm,
    fun path sought file => (same.contents path sought ((same.files path sought).trans file)).symm⟩

theorem SameSources.trans (same : SameSources start root view view')
    (again : SameSources start root view' view'') : SameSources start root view view'' :=
  ⟨fun names named => (same.places names named).trans (again.places names named),
    fun path sought => (same.files path sought).trans (again.files path sought),
    fun path sought file => (same.contents path sought file).trans
      (again.contents path sought ((same.files path sought).symm.trans file))⟩

theorem Spares.refl (settings : Settings) (start view : View) : Spares settings start view view :=
  ⟨.refl _ _ _, fun _ => id⟩

theorem Spares.trans (first : Spares settings start view view') (second : Spares settings start view' view'') :
    Spares settings start view view'' :=
  ⟨first.sources.trans second.sources, fun version there => second.jars version (first.jars version there)⟩

/-- Where the sources are as at the start, the same changelogs are found. -/
theorem changelogs_same (same : SameSources start root start view) :
    (changelogs view root).1 = (changelogs start root).1 := by
  refine (changelogs_exact view root).unique ((changelogs_exact start root).congr fun names holds => ?_)
  constructor
  · rintro ⟨below, candidate, met⟩
    have named := hasExtension_iff.mpr candidate.named
    have sought : Sought start root (descend root names) := .source below named
    refine ⟨(same.places names named).mp below, ⟨?_, candidate.named, candidate.source⟩, ?_⟩
    · rw [← same.files _ sought]
      exact candidate.file
    · rwa [← same.contents _ sought candidate.file]
  · rintro ⟨below, candidate, met⟩
    have named := hasExtension_iff.mpr candidate.named
    have below := (same.places names named).mpr below
    have sought : Sought start root (descend root names) := .source below named
    have file := (same.files _ sought).trans candidate.file
    refine ⟨below, ⟨file, candidate.named, candidate.source⟩, ?_⟩
    rwa [same.contents _ sought file]

/-- The manifest of a changelog that was found is found where the sources are the same. -/
theorem manifest_same {now : Moment σ} {now' : Moment τ} {cwd : Location} {changelog : Path}
    {found : List Path} (same : SameSources start root (now.view cwd) (now'.view cwd))
    (collects : (changelogs start root).1 = .ok found) (member : changelog ∈ found) :
    manifestAt cwd root changelog now' = manifestAt cwd root changelog now := by
  refine List.find?_congr fun manifest above => ?_
  obtain ⟨directory, within, rfl⟩ := List.mem_map.mp above
  exact (same.files _ (.manifest collects member within)).symm

/-- A place is below the root if something stands there from where the root leads to. -/
theorem below_iff {names : Location} : Below view root names ↔
    ∃ place, placeOf? view root = some place ∧ (view.disk.node? (place ++ names)).isSome := by
  simp only [Below, stat_eq_ok_iff, node_append]
  constructor
  · rintro ⟨node, ⟨place, leads, there⟩, stands⟩
    exact ⟨place, leads, by rwa [there]⟩
  · rintro ⟨place, leads, stands⟩
    obtain ⟨inner, found⟩ := Option.isSome_iff_exists.mp stands
    obtain ⟨node, there, below⟩ := Option.bind_eq_some_iff.mp found
    exact ⟨node, ⟨place, leads, there⟩, Option.isSome_of_eq_some below⟩

/-- What does no harm has left the sources alone: what a path led to it leads to still. -/
theorem Gentle.spares (gentle : Gentle settings start view view') : Spares settings start view view' := by
  cases gentle with
  | @writing disk spots written outside apart =>
  obtain ⟨before, cwd⟩ := view
  have aside {path : Path} (sought : Sought start settings.root path) (spot : Location)
      (leads : placeOf? ⟨before, cwd⟩ path = some spot) : spot ∉ spots :=
    fun member => apart path sought ⟨spot, leads, .inl member⟩
  refine ⟨⟨fun names named => ?_, fun path sought => ?_, fun path sought file => ?_⟩, fun version => written.isFile⟩
  · simp only [below_iff, written.placeOf_eq]
    refine exists_congr fun place => and_congr_right fun leads => ?_
    rw [(written.elsewhere _ (outside place names leads named)).isSome_iff]
  · exact (written.isFile_eq (aside sought)).symm
  · obtain ⟨spot, number, leads, stands⟩ := isFile_iff.mp file
    exact (written.read_eq leads stands fun hit =>
      apart path sought ⟨spot, leads, .inr ⟨number, stands, hit⟩⟩).symm

theorem Harmless.spares {cwd : Location} {call : Call σ} (harmless : Harmless cwd settings start call) :
    Spares settings start (call.before.view cwd) (call.after.view cwd) :=
  harmless.gentle.spares

section Unlinked
variable {place : Location} {path : Path} {before disk : Disk} {cwd : Location} {spots : List Location}

theorem manifest_hasExtension (place : Location) :
    hasExtension (Location.path (place ++ [manifestName])) = true := by
  rw [hasExtension_iff]
  refine ⟨Bytes.ofString "pom", by decide, ?_⟩
  simp only [Path.fileName?, path_components, List.map_append, List.map_singleton]
  rw [← List.cons_append, List.getLast?_concat]
  decide

/-- Below the path of a place, what is sought are paths of places, too. -/
theorem sought_place (sought : Sought start place.path path) :
    ∃ spot : Location, path = spot.path ∧ hasExtension path = true := by
  cases sought with
  | @source names stands named => exact ⟨place ++ names, path_descend place names, named⟩
  | @manifest paths changelog directory found member above =>
    obtain ⟨names, rfl, -⟩ := (changelogs_found found).2 changelog member
    obtain ⟨upper, rfl⟩ : ∃ upper : Location, directory = upper.path := by
      by_cases filled : names = []
      · subst filled
        cases place using List.reverseRecOn with
        | nil =>
          rw [descend_nil, path_parent_top, Option.getD_none, directories_root] at above
          exact ⟨[], List.mem_singleton.mp above⟩
        | append_singleton front name =>
          rw [descend_nil, path_parent, Option.getD_some,
            directories_outside (not_prefix_of_shorter (by simp))] at above
          cases above
      · rw [(workingDirectory_descend place filled).2, directories_eq] at above
        obtain ⟨upper, -, rfl⟩ := List.mem_map.mp above
        exact ⟨place ++ upper, path_descend place upper⟩
    have written : upper.path.join Manifest.fileName = Location.path (upper ++ [manifestName]) :=
      path_join upper manifestName
    exact ⟨_, written, written ▸ manifest_hasExtension upper⟩

/-- On a disk without links files may be written anywhere, unless they have the extension
of a changelog by one of their names: jars and what is converted do no harm. -/
theorem unlinked_gentle (spelled : settings.root = place.path) (unlinked : Unlinked before)
    (written : Written before disk spots) (foreign : ∀ spot ∈ spots, hasExtension spot.path = false)
    (single : ∀ names number, before.node? names = some (.file number) → StandsAt before spots number →
      hasExtension names.path = false) :
    Gentle settings start ⟨before, cwd⟩ ⟨disk, cwd⟩ := by
  refine .writing written (fun _ names leads named member => ?_) fun path sought => ?_
  · rw [spelled] at leads named
    obtain rfl := placeOf_path unlinked leads
    rw [path_descend, foreign _ member] at named
    cases named
  · rw [spelled] at sought
    obtain ⟨other, rfl, named⟩ := sought_place sought
    rintro ⟨spot, leads, hit⟩
    obtain rfl := placeOf_path unlinked leads
    rcases hit with member | ⟨number, stands, hit⟩
    · cases (foreign _ member).symm.trans named
    · cases (single _ number stands hit).symm.trans named

/-- The entry is a file that could be a changelog by its name. -/
def isNamedFile (number : Nat) (name : Name) (node : Node) : Bool :=
  isFileOf number name node && (Bytes.ofString ".xml").isSuffixOf name.bytes

/-- On a disk without links a new file can be made where a path leads to, and neither the
place nor another name of what stands there is that of a changelog. -/
def isClear (view : View) (path : Path) : Bool :=
  match placeOf? view path with
  | none => false
  | some spot =>
    let isOnlyName : Bool :=
      match view.disk.node? spot with
      | some (.file number) => !haveEntry (isNamedFile number) view.disk.top
      | _ => true
    canWrite view path && !haveEntry isLink view.disk.top && !hasExtension spot.path && isOnlyName

theorem named_of_hasExtension {names : Location} (named : hasExtension names.path = true) :
    ∃ front name, names = front ++ [name] ∧ (Bytes.ofString ".xml").isSuffixOf name.bytes = true := by
  obtain ⟨stem, -, ends⟩ := hasExtension_iff.mp named
  cases names using List.reverseRecOn with
  | nil => cases ends
  | append_singleton front name =>
    refine ⟨front, name, rfl, List.isSuffixOf_iff_suffix.mpr ⟨stem, ?_⟩⟩
    simp only [Path.fileName?, path_components, List.map_append, List.map_singleton] at ends
    rw [← List.cons_append, List.getLast?_concat] at ends
    simpa using ends.symm

theorem writtenAt_gentle {view : View} {content : Bytes} (spelled : settings.root = place.path)
    (clear : isClear view path = true) :
    Gentle settings start view ⟨writtenAt view path content, view.cwd⟩ := by
  unfold isClear at clear
  cases leads : placeOf? view path with
  | none =>
    rw [leads] at clear
    cases clear
  | some spot =>
    simp only [leads, Bool.and_eq_true, Bool.not_eq_true'] at clear
    obtain ⟨⟨⟨can, unlinked⟩, foreign⟩, only⟩ := clear
    obtain ⟨spot', leads', written⟩ := writtenAt_written content can
    obtain rfl := Option.some.inj (leads.symm.trans leads')
    refine unlinked_gentle spelled (unlinked_of_haveEntry unlinked) written (by simpa using foreign) ?_
    rintro names number there ⟨spot', member, stands⟩
    obtain rfl := List.mem_singleton.mp member
    rw [stands] at only
    refine (Bool.not_eq_true _).mp fun named => ?_
    obtain ⟨front, name, rfl, ends⟩ := named_of_hasExtension named
    have held := node_haveEntry (isNamedFile number) there (by simp [isNamedFile, isFileOf, ends])
    simp [held] at only

end Unlinked

end ChangelogSql.SparedSources
