import ChangelogSql.Proofs.DiscoveryExactness
import ChangelogSql.Proofs.PlacePaths
import ChangelogSql.Proofs.RunAccounting
import ChangelogSql.Toolchain.Installed

/-! A root that has been settled is spelled in one way, and whatever is found below
it goes on from that spelling by names. So the search for a manifest, which compares
paths step by step, goes up exactly to the root and never past it. -/
namespace ChangelogSql.RootedSearch
open Files Programs Conversion CallAccounts Discovery Toolchain.Installed
open PathDescent PlacePaths TreeWalk DiscoveryExactness ResolutionMemo RunAccounting

variable {σ : Type}

/-- A path goes from the top through a root to something below it, and nowhere does it
stay or go up. -/
structure Beneath (root path : Path) : Prop where
  fromTop : path.isAbsolute = true
  within : path.startsWith root = true
  apart : path.sameAs root = false
  level : ∀ component ∈ path.components, component ≠ .here ∧ component ≠ .up

/-- The manifest in the directory that one comes to by names. -/
def manifestIn (root : Path) (names : Location) : Path :=
  (descend root names).join Manifest.fileName

/-- Of the directories on the way down through names, this is the lowest that has its
manifest as a regular file. -/
def Nearest (view : View) (root : Path) (names : Location) (manifest : Path) : Prop :=
  ∃ above, above <+: names ∧ manifest = manifestIn root above ∧ view.isFile manifest = true ∧
    ∀ lower, lower <+: names → above.length < lower.length → view.isFile (manifestIn root lower) = false

/-- None of the directories on the way down through names has a manifest as a regular
file. -/
def NoManifest (view : View) (root : Path) (names : Location) : Prop :=
  ∀ above, above <+: names → view.isFile (manifestIn root above) = false

variable {view : View} {root manifest path : Path} {place names : Location} {name : Name}

mutual

/-- Whatever is visited below a node is reached from it by names. -/
theorem below_descends : ∀ (node : Node) (path inner : Path),
    inner ∈ visited (visitsBelow path node) → ∃ names, names ≠ [] ∧ inner = descend path names
  | .directory mode entries, path, inner, member => by
    by_cases short : path.bytes.length < pathLimit
    · rw [visitsBelow_directory mode entries short] at member
      obtain ⟨visit, met, same⟩ := List.mem_filterMap.mp member
      obtain ⟨entry, held, among⟩ := List.mem_flatMap.mp met
      exact entries_descend entries path entry (mem_inOrder.mp held) inner
        (List.mem_filterMap.mpr ⟨visit, among, same⟩)
    · rw [visitsBelow, if_pos (by omega)] at member
      simp [visited] at member
  | .file _, _, _, member => by simp [visitsBelow, visited] at member
  | .device _, _, _, member => by simp [visitsBelow, visited] at member
  | .queue _, _, _, member => by simp [visitsBelow, visited] at member
  | .link _, _, _, member => by simp [visitsBelow, visited] at member

theorem entries_descend : ∀ (entries : Entries) (path : Path), ∀ entry ∈ entries.toList,
    ∀ inner ∈ visited (groupAt path entry), ∃ names, names ≠ [] ∧ inner = descend path names
  | .nil, _, _, held, _, _ => by cases held
  | .cons name node rest, path, entry, held, inner, member => by
    rw [Entries.toList, List.mem_cons] at held
    rcases held with rfl | held
    · rw [groupAt, visited_entry, List.mem_cons] at member
      rcases member with rfl | member
      · exact ⟨[name], by simp, rfl⟩
      · obtain ⟨names, -, rfl⟩ := below_descends node _ inner member
        exact ⟨name :: names, by simp, rfl⟩
    · exact entries_descend rest path entry held inner member

end

/-- A changelog that is found while the root is no file lies below the root. -/
theorem changelog_descends {changelogs : List Path} (directory : view.isFile root = false)
    (found : (Discovery.changelogs view root).1 = .ok changelogs) :
    ∀ changelog ∈ changelogs, ∃ names, names ≠ [] ∧ changelog = descend root names := by
  intro changelog member
  obtain ⟨-, rfl⟩ := collected_ok_iff.mp (show collected view root (visits view root) = _ from found)
  simp only [List.mem_filter, decide_eq_true_eq] at member
  obtain ⟨met, verdict⟩ := member
  rw [visits_eq] at met
  split at met
  · simp [visited] at met
  rw [visited_entry, List.mem_cons] at met
  rcases met with rfl | met
  · have itself : judge view changelog (descend changelog []) = .changelog := verdict
    cases directory.symm.trans (judge_changelog_iff.mp itself).1.file
  · exact below_descends _ _ _ met

theorem beneath_path (filled : names ≠ []) : Beneath place.path (descend place.path names) where
  fromTop := by rw [path_descend]; rfl
  within := by
    rw [path_descend]
    exact path_startsWith_iff.mpr (List.prefix_append _ _)
  apart := by simp [Path.sameAs, descend_components, filled]
  level := by
    rw [path_descend, path_components]
    intro component member
    rcases List.mem_cons.mp member with rfl | member
    · exact ⟨by simp, by simp⟩
    · obtain ⟨name, -, rfl⟩ := List.mem_map.mp member
      exact ⟨by simp, by simp⟩

theorem nearest_root : Manifest.nearest? view place.path place.path =
    if view.isFile (manifestIn place.path []) then some (manifestIn place.path []) else none := by
  rw [Manifest.nearest?, directories_root]
  by_cases there : view.isFile (place.path.join Manifest.fileName) = true <;>
    simp [manifestIn, there]

theorem nearest_concat : Manifest.nearest? view (descend place.path (names ++ [name])) place.path =
    if view.isFile (manifestIn place.path (names ++ [name])) then
      some (manifestIn place.path (names ++ [name]))
    else Manifest.nearest? view (descend place.path names) place.path := by
  simp only [Manifest.nearest?, manifestIn, path_descend, directories_concat, List.map_cons,
    List.find?_cons]
  by_cases there :
      view.isFile ((Location.path (place ++ (names ++ [name]))).join Manifest.fileName) = true <;>
    simp [there]

theorem noManifest_concat : NoManifest view root (names ++ [name]) ↔
    view.isFile (manifestIn root (names ++ [name])) = false ∧ NoManifest view root names := by
  simp [NoManifest, List.prefix_concat_iff]

theorem manifestIn_within : (manifestIn root names).startsWith root = true := by
  have written : (manifestIn root names).components =
      (descend root names).components ++ [.normal Manifest.fileName.bytes] :=
    PathComponents.components_join _ Manifest.fileName.bytes (by decide)
  rw [Path.startsWith, List.isPrefixOf_iff_prefix, written, descend_components, List.append_assoc]
  exact List.prefix_append _ _

/-- Going one directory further down hides what is nearest above exactly if there is a
manifest in it. -/
theorem nearest_concat_iff : Nearest view root (names ++ [name]) manifest ↔
    if view.isFile (manifestIn root (names ++ [name])) then manifest = manifestIn root (names ++ [name])
    else Nearest view root names manifest := by
  have shorter {above : Location} (starts : above <+: names) : above.length < (names ++ [name]).length := by
    have := starts.length_le
    rw [List.length_append, List.length_singleton]
    omega
  split
  next there =>
    constructor
    · rintro ⟨above, starts, rfl, -, lowest⟩
      rcases List.prefix_concat_iff.mp starts with rfl | starts
      · rfl
      · rw [lowest _ (List.prefix_refl _) (shorter starts)] at there
        cases there
    · rintro rfl
      refine ⟨_, List.prefix_refl _, rfl, there, fun lower starts longer => ?_⟩
      exact absurd starts.length_le (by omega)
  next missing =>
    constructor
    · rintro ⟨above, starts, rfl, there, lowest⟩
      rcases List.prefix_concat_iff.mp starts with rfl | starts
      · exact absurd there missing
      · exact ⟨above, starts, rfl, there, fun lower below => lowest lower (below.trans (List.prefix_append _ _))⟩
    · rintro ⟨above, starts, rfl, there, lowest⟩
      refine ⟨above, starts.trans (List.prefix_append _ _), rfl, there, fun lower below longer => ?_⟩
      rcases List.prefix_concat_iff.mp below with rfl | below
      · simpa using missing
      · exact lowest lower below longer

/-- The search finds the lowest manifest on the way down from the root. -/
theorem nearest?_eq_some_iff :
    Manifest.nearest? view (descend place.path names) place.path = some manifest ↔
      Nearest view place.path names manifest := by
  induction names using List.reverseRecOn with
  | nil =>
    rw [descend_nil, nearest_root]
    simp only [Nearest, List.prefix_nil]
    constructor
    · intro found
      split at found
      next there =>
        cases found
        exact ⟨[], rfl, rfl, there, by simp⟩
      next => cases found
    · rintro ⟨_, rfl, rfl, there, -⟩
      rw [if_pos there]
  | append_singleton names name ih =>
    rw [nearest_concat, nearest_concat_iff]
    split
    · rw [Option.some.injEq, eq_comm]
    · exact ih

/-- The search finds nothing exactly if there is no manifest on the way. -/
theorem nearest?_eq_none_iff :
    Manifest.nearest? view (descend place.path names) place.path = none ↔
      NoManifest view place.path names := by
  induction names using List.reverseRecOn with
  | nil => simp [nearest_root, NoManifest]
  | append_singleton names name ih =>
    rw [nearest_concat, noManifest_concat]
    split
    next there => simp [there]
    next missing => simpa [missing] using ih

/-- A settled root is the path of a place. -/
theorem settle_root {view : View} {root? directory? : Option Path} {settings : Settings}
    (settled : Settings.settle view root? directory? = .ok settings) :
    ∃ place : Location, settings.root = place.path := by
  simp only [Settings.settle, Bind.bind, Except.bind] at settled
  split at settled
  · cases settled
  split at settled
  · cases settled
  next given _ canonical written =>
    cases settled
    exact canonical_place written

section Resolver
variable {tools : Toolchain σ} {changelog : Path} {memo : Memo} {world : World σ}

/-- A changelog without a manifest is refused before anybody is asked, and nothing else
is refused so early. -/
theorem orphan_iff_unasked : manifestAt world.cwd root changelog (momentOf world) = none ↔
    ((resolve tools root changelog memo).perform world).1 = .error (.manifestNotFound changelog) ∧
      Accounts tools world ((resolve tools root changelog memo).perform world).2 [] := by
  obtain ⟨calls, outcome, after, resolving⟩ :=
    resolving_total tools world.cwd root memo.find? changelog (momentOf world)
  obtain ⟨final, performed, account, -⟩ := resolve_performs resolving world rfl rfl
  rw [performed]
  constructor
  · intro nowhere
    cases resolving with
    | orphan => exact ⟨rfl, account⟩
    | remembered nearest | unlisted nearest | unversioned nearest | listed nearest =>
      rw [nowhere] at nearest
      cases nearest
  · rintro ⟨failed, quiet⟩
    have unasked := account.unique quiet
    cases resolving with
    | orphan nowhere => exact nowhere
    | remembered => cases failed
    | unlisted | unversioned | listed => cases unasked

/-- As long as listing does not fail with it, that failure means that there is no
manifest. -/
theorem orphan_iff_failed
    (other : ∀ project view memory,
      (tools.dependencies project view memory).answer ≠ .error (.manifestNotFound changelog)) :
    manifestAt world.cwd root changelog (momentOf world) = none ↔
      ((resolve tools root changelog memo).perform world).1 = .error (.manifestNotFound changelog) := by
  obtain ⟨calls, outcome, after, resolving⟩ :=
    resolving_total tools world.cwd root memo.find? changelog (momentOf world)
  obtain ⟨final, performed, -, -⟩ := resolve_performs resolving world rfl rfl
  refine ⟨fun nowhere => (orphan_iff_unasked.mp nowhere).1, fun failed => ?_⟩
  rw [performed] at failed
  cases resolving with
  | orphan nowhere => exact nowhere
  | remembered | unversioned | listed => cases failed
  | unlisted _ _ _ asked =>
    cases failed
    exact absurd asked.1 (other _ _ _)

theorem resolved_manifest {found : Resolution} {memo' : Memo}
    (resolved : ((resolve tools root changelog memo).perform world).1 = .ok (found, memo')) :
    manifestAt world.cwd root changelog (momentOf world) = some found.manifest := by
  obtain ⟨calls, outcome, after, resolving⟩ :=
    resolving_total tools world.cwd root memo.find? changelog (momentOf world)
  obtain ⟨final, performed, -, -⟩ := resolve_performs resolving world rfl rfl
  rw [performed] at resolved
  cases outcome with
  | error failure => cases resolved
  | ok found' =>
    cases resolved
    exact (resolving_found resolving).1

/-- A program that lists fails only by not being started. -/
theorem installed_listing (machine : Machine σ) (project : Path) (view : View) (memory : σ) :
    ((toolchain machine).dependencies project view memory).answer ≠
      .error (.manifestNotFound changelog) := by
  simp only [toolchain, dependencies, reply]
  split
  · exact fun same => by cases same
  · exact fun same => by cases same

end Resolver

/-- Below a root that was settled from any spelling, every changelog is reached from
the root by names. The search for its manifest begins in the directory where it is
converted and goes up through every directory to the root, and no further. So a
changelog is without a manifest exactly if none of these directories has one, no
matter what there is above the root or beside it. -/
theorem search_ends_at_root (view later : View) (root? directory? : Option Path)
    {settings : Settings} {changelogs : List Path}
    (settled : Settings.settle view root? directory? = .ok settings)
    (directory : later.isFile settings.root = false)
    (found : (Discovery.changelogs later settings.root).1 = .ok changelogs) :
    ∀ changelog ∈ changelogs,
      Beneath settings.root changelog ∧
      ∃ names, names ≠ [] ∧ changelog = descend settings.root names ∧
        changelog.parent?.getD settings.root = Output.workingDirectory changelog ∧
        Manifest.directories (Output.workingDirectory changelog) settings.root =
          names.dropLast.inits.reverse.map (descend settings.root) ∧
        (∀ now manifest,
          Manifest.nearest? now (Output.workingDirectory changelog) settings.root = some manifest ↔
            Nearest now settings.root names.dropLast manifest) ∧
        (∀ now manifest,
          Manifest.nearest? now (Output.workingDirectory changelog) settings.root = some manifest →
            manifest.startsWith settings.root = true) ∧
        ∀ (tools : Toolchain σ) (memo : Memo) (world : World σ),
          let resolved := (resolve tools settings.root changelog memo).perform world
          (resolved.1 = .error (.manifestNotFound changelog) ∧ Accounts tools world resolved.2 [] ↔
            NoManifest world.view settings.root names.dropLast) ∧
          ((∀ project view memory,
              (tools.dependencies project view memory).answer ≠ .error (.manifestNotFound changelog)) →
            (resolved.1 = .error (.manifestNotFound changelog) ↔
              NoManifest world.view settings.root names.dropLast)) ∧
          (∀ machine : Machine σ, tools = toolchain machine →
            (resolved.1 = .error (.manifestNotFound changelog) ↔
              NoManifest world.view settings.root names.dropLast)) ∧
          ∀ found memo', resolved.1 = .ok (found, memo') →
            Nearest world.view settings.root names.dropLast found.manifest := by
  obtain ⟨place, spelled⟩ := settle_root settled
  intro changelog member
  obtain ⟨names, filled, rfl⟩ := changelog_descends directory found changelog member
  rw [spelled]
  obtain ⟨start, above⟩ := workingDirectory_descend place filled
  refine ⟨beneath_path filled, names, filled, rfl, above.trans start.symm, ?_, ?_, ?_, ?_⟩
  · rw [start]
    exact directories_eq place names.dropLast
  · intro now manifest
    rw [start]
    exact nearest?_eq_some_iff
  · intro now manifest nearest
    rw [start] at nearest
    obtain ⟨upper, -, rfl, -, -⟩ := nearest?_eq_some_iff.mp nearest
    exact manifestIn_within
  · intro tools memo world
    have nowhere : manifestAt world.cwd place.path (descend place.path names) (momentOf world) = none ↔
        NoManifest world.view place.path names.dropLast := by
      rw [manifestAt, above]
      exact nearest?_eq_none_iff
    refine ⟨orphan_iff_unasked.symm.trans nowhere,
      fun other => (orphan_iff_failed other).symm.trans nowhere, ?_, ?_⟩
    · rintro machine rfl
      exact (orphan_iff_failed (installed_listing machine)).symm.trans nowhere
    · intro found memo' resolved
      have nearest := resolved_manifest resolved
      rw [manifestAt, above] at nearest
      exact nearest?_eq_some_iff.mp nearest

/-- The root of the small project, spelled in a roundabout way, is searched like any
other. -/
theorem small_search :
    ∃ settings : Settings,
      Settings.settle smallWorld.view (some (Path.ofString "p/.//../p")) none = .ok settings ∧
      smallWorld.view.isFile settings.root = false ∧
      (Discovery.changelogs smallWorld.view settings.root).1 = .ok smallChangelogs ∧
      Beneath settings.root (Path.ofString "/p/q/c.xml") ∧
      ((resolve smallTools settings.root (Path.ofString "/p/q/c.xml") Memo.empty).perform smallWorld).1 ≠
        .error (.manifestNotFound (Path.ofString "/p/q/c.xml")) := by
  have settled : Settings.settle smallWorld.view (some (Path.ofString "p/.//../p")) none =
      .ok ⟨Path.ofString "/p", Path.ofString "/tmp", Jar.releases⟩ := rfl
  refine ⟨_, settled, by decide, small_discovery, ?_⟩
  obtain ⟨beneath, names, -, -, -, -, -, -, resolved⟩ :=
    search_ends_at_root smallWorld.view smallWorld.view _ _ settled (by decide) small_discovery
      (Path.ofString "/p/q/c.xml") (by decide)
  refine ⟨beneath, fun failed => ?_⟩
  have listing : ∀ project view memory, (smallTools.dependencies project view memory).answer ≠
      .error (.manifestNotFound (Path.ofString "/p/q/c.xml")) := fun _ _ _ => nofun
  have none := ((resolved smallTools Memo.empty smallWorld).2.1 listing).mp failed
  have root := none [] (List.nil_prefix)
  revert root
  decide

end ChangelogSql.RootedSearch
