import Mathlib.Data.List.Perm.Basic
import ChangelogSql.Proofs.DueBlocks

/-! The order in which changelogs are met does not show in what a run comes to.
Each order lists the same projects and fetches the same jars, each once, since
both can be told from the blocks alone, and the blocks are those that are due. -/
namespace ChangelogSql.ConversionOrder
open Files Conversion CallAccounts PathComponents ResolutionMemo RunCourse RunAccounting DueBlocks

variable {σ : Type}

/-- Going through the changelogs, one after the other. -/
def convertAll (tools : Toolchain σ) (settings : Settings) (changelogs : List Path) :
    Action σ Progress :=
  changelogs.foldlM (convertOne tools settings.root) (Progress.start settings)

/-- The project that a call asks to list, told by what its path denotes. -/
def listed? (call : Call σ) : Option (List Path.Component) :=
  match call.exchange with
  | .dependencies project _ => some project.components
  | _ => none

/-- The exchange in which the jar for a version is fetched. -/
def fetchOf (settings : Settings) (version : String) : Exchange :=
  .download (jarFor settings version).url (jarFor settings version).path (.ok .fetched)

variable {answers : Answers} {tools : Toolchain σ} {cwd : Location} {settings : Settings}
variable {now after : Moment σ} {calls : List (Call σ)} {changelogs : List Path} {changelog : Path}
variable {earlier blocks : List Block} {block : Block} {version : String}

/-- A block lists the project of its manifest if that is new, and else nothing. -/
theorem converting_listed
    (converting : Converting tools cwd settings earlier changelog now calls (.ok block) after) :
    calls.filterMap listed? =
      if block.manifest.components ∈ manifestsOf earlier then []
      else [block.manifest.components.dropLast] := by
  cases converting with
  | @converted calls found resolved more supplied after resolving supplying asked =>
    have fetched : more.filterMap listed? = [] := by
      cases supplying <;> simp [listed?]
    rw [List.filterMap_append, List.filterMap_append, fetched]
    obtain ⟨-, ⟨-, met, rfl, -⟩ | ⟨-, new, project, listing, above, rfl, -, -⟩⟩ :=
      resolving_found resolving
    · have member : found.manifest.components ∈ manifestsOf earlier := by
        by_contra absent
        rw [known_iff.mpr absent] at met
        cases met
      rw [if_pos member]
      rfl
    · rw [if_neg (known_iff.mp new), ← parent_components above]
      rfl

/-- The projects that are listed are those of the manifests that are new, each once. -/
theorem blocks_listed {failure? : Option Failure}
    (course : Blocks tools cwd settings earlier changelogs now calls blocks failure? after)
    (through : failure? = none) :
    ∃ met : List (List Path.Component), met.Nodup ∧
      calls.filterMap listed? = met.map List.dropLast ∧
      met.toFinset = manifestsOf blocks \ manifestsOf earlier := by
  induction course with
  | done => exact ⟨[], .nil, rfl, by simp [manifestsOf]⟩
  | failed => cases through
  | @converted earlier changelog now calls block middle rest more blocks failure? after
      converting _ ih =>
    obtain ⟨met, nodup, others, fresh⟩ := ih through
    have later (manifest : List Path.Component) : manifest ∈ met ↔
        manifest ∈ manifestsOf blocks ∧ manifest ∉ manifestsOf earlier ∧
          manifest ≠ block.manifest.components := by
      rw [← List.mem_toFinset, fresh]
      simp [manifestsOf, and_comm]
    have whole : manifestsOf (block :: blocks) =
        insert block.manifest.components (manifestsOf blocks) := List.toFinset_cons
    rw [List.filterMap_append, others, whole]
    by_cases known : block.manifest.components ∈ manifestsOf earlier
    · refine ⟨met, nodup, ?_, ?_⟩
      · rw [converting_listed converting, if_pos known, List.nil_append]
      · ext manifest
        simp only [List.mem_toFinset, later, Finset.mem_sdiff, Finset.mem_insert]
        grind
    · refine ⟨block.manifest.components :: met, ?_, ?_, ?_⟩
      · exact List.nodup_cons.mpr ⟨by simp [later], nodup⟩
      · rw [converting_listed converting, if_neg known]
        rfl
      · ext manifest
        simp only [List.mem_toFinset, List.mem_cons, later, Finset.mem_sdiff, Finset.mem_insert]
        grind

/-- What is asked to be downloaded for a block that is converted is its jar. -/
theorem converting_fetches
    (converting : Converting tools cwd settings earlier changelog now calls (.ok block) after) :
    ∃ fetched : List String,
      (calls.filter isDownload).map Call.exchange = fetched.map (fetchOf settings) ∧
      calls.filterMap address? = fetched.map fun version => (jarFor settings version).url := by
  cases converting with
  | @converted calls found resolved more supplied after resolving supplying asked =>
    have never : calls.filter isDownload = [] ∧ calls.filterMap address? = [] := by
      cases resolving <;> simp [isDownload, address?]
    rw [List.filter_append, List.filterMap_append, never.1, never.2]
    cases supplying with
    | present => exact ⟨[], rfl, rfl⟩
    | fetched => exact ⟨[found.version], rfl, rfl⟩

theorem blocks_fetches {failure? : Option Failure}
    (course : Blocks tools cwd settings earlier changelogs now calls blocks failure? after)
    (through : failure? = none) :
    ∃ fetched : List String,
      (calls.filter isDownload).map Call.exchange = fetched.map (fetchOf settings) ∧
      calls.filterMap address? = fetched.map fun version => (jarFor settings version).url := by
  induction course with
  | done => exact ⟨[], rfl, rfl⟩
  | failed => cases through
  | converted converting _ ih =>
    obtain ⟨first, exchanges, addresses⟩ := converting_fetches converting
    obtain ⟨others, exchanges', addresses'⟩ := ih through
    refine ⟨first ++ others, ?_, ?_⟩
    · rw [List.filter_append, List.map_append, exchanges, exchanges', List.map_append]
    · rw [List.filterMap_append, addresses, addresses', List.map_append]

/-- What is downloaded is the jars that are missing when the loop begins, each once. -/
theorem blocks_fetched (course : Blocks tools cwd settings [] changelogs now calls blocks none after)
    (follow : ∀ call ∈ calls, Follows answers cwd settings changelogs call) :
    ∃ fetched : List String, fetched.Nodup ∧
      (calls.filter isDownload).map Call.exchange = fetched.map (fetchOf settings) ∧
      fetched.toFinset =
        (versionsOf blocks).filter fun version => isThere cwd settings now version = false := by
  have made := (blocks_right course (List.forall_mem_nil _) follow (List.Subset.refl _)).2 rfl
  have speaks : ∀ version ∈ versionsOf blocks, answers.Speaks version := by
    intro version used
    obtain ⟨block, member, rfl⟩ := List.mem_map.mp (List.mem_toFinset.mp used)
    rw [made] at member
    obtain ⟨changelog, -, due⟩ := List.mem_filterMap.mp member
    exact (speaks_of_blockAt due).2
  obtain ⟨fetched, nodup, addresses, missing⟩ := blocks_addresses course rfl
    (fun call made => keeps_of_follows (follow call made) speaks) (Finset.Subset.refl _)
  obtain ⟨fetched', exchanges, addresses'⟩ := blocks_fetches course rfl
  have same : fetched' = fetched :=
    (jar_url_injective settings).list_map (addresses'.symm.trans addresses)
  exact ⟨fetched, nodup, same ▸ exchanges, missing⟩

/-- Going through the same changelogs from the same moment, in whatever order, asks
for the same conversions, listings and downloads. -/
theorem blocks_perm {calls' : List (Call σ)} {blocks' : List Block} {after' : Moment σ}
    {changelogs' : List Path} (same : changelogs.Perm changelogs')
    (one : Blocks tools cwd settings [] changelogs now calls blocks none after)
    (other : Blocks tools cwd settings [] changelogs' now calls' blocks' none after')
    (mine : ∀ call ∈ calls, Follows answers cwd settings changelogs call)
    (theirs : ∀ call ∈ calls', Follows answers cwd settings changelogs' call) :
    ((calls.filter isConversion).map Call.exchange).Perm
        ((calls'.filter isConversion).map Call.exchange) ∧
      (calls.filterMap listed?).Perm (calls'.filterMap listed?) ∧
      ((calls.filter isDownload).map Call.exchange).Perm
        ((calls'.filter isDownload).map Call.exchange) := by
  have blocked : blocks.Perm blocks' := by
    rw [(blocks_right one (List.forall_mem_nil _) mine (List.Subset.refl _)).2 rfl,
      (blocks_right other (List.forall_mem_nil _) theirs (List.Subset.refl _)).2 rfl]
    exact same.filterMap _
  refine ⟨?_, ?_, ?_⟩
  · rw [blocks_conversions one rfl, blocks_conversions other rfl]
    exact blocked.map _
  · have manifests : manifestsOf blocks = manifestsOf blocks' :=
      List.toFinset_eq_of_perm _ _ (blocked.map _)
    obtain ⟨met, nodup, listed, fresh⟩ := blocks_listed one rfl
    obtain ⟨met', nodup', listed', fresh'⟩ := blocks_listed other rfl
    rw [listed, listed']
    refine (List.perm_of_nodup_nodup_toFinset_eq nodup nodup' ?_).map _
    rw [fresh, fresh', manifests]
  · have versions : versionsOf blocks = versionsOf blocks' :=
      List.toFinset_eq_of_perm _ _ (blocked.map _)
    obtain ⟨fetched, nodup, exchanges, missing⟩ := blocks_fetched one mine
    obtain ⟨fetched', nodup', exchanges', missing'⟩ := blocks_fetched other theirs
    rw [exchanges, exchanges']
    refine (List.perm_of_nodup_nodup_toFinset_eq nodup nodup' ?_).map _
    rw [missing, missing', versions]

/-- There is a listing for every call that asks for one. -/
theorem length_listed (calls : List (Call σ)) :
    (calls.filterMap listed?).length = calls.countP isListing := by
  rw [List.length_filterMap_eq_countP]
  congr 1
  funext ⟨_, exchange, _⟩
  cases exchange <;> rfl

/-- Going through the changelogs has a course, and reports no more than its calls. -/
theorem convertAll_course (tools : Toolchain σ) (settings : Settings) (changelogs : List Path)
    (world : World σ) :
    ∃ calls blocks failure? after,
      Blocks tools world.cwd settings [] changelogs (momentOf world) calls blocks failure? after ∧
      Accounts tools world ((convertAll tools settings changelogs).perform world).2 calls ∧
      ((∃ progress, ((convertAll tools settings changelogs).perform world).1 = .ok progress) ↔
        failure? = none) ∧
      ∀ progress, ((convertAll tools settings changelogs).perform world).1 = .ok progress →
        progress.summary = ⟨changelogs, calls.countP isListing, calls.countP isDownload⟩ := by
  obtain ⟨calls, blocks, failure?, after, course⟩ :=
    blocks_total tools world.cwd settings [] changelogs (momentOf world)
  refine ⟨calls, blocks, failure?, after, course, ?_⟩
  obtain ⟨fails, finishes⟩ := blocks_perform course (reflects_start settings)
  cases failure? with
  | some failure =>
    obtain ⟨final, performed, account, -⟩ := fails failure rfl world rfl rfl
    simp only [convertAll, performed]
    exact ⟨account, by simp, by simp⟩
  | none =>
    obtain ⟨progress, reflects, performs⟩ := finishes rfl
    obtain ⟨final, performed, account, -⟩ := performs world rfl rfl
    simp only [convertAll, performed]
    refine ⟨account, by simp, ?_⟩
    rintro _ ⟨⟩
    simp [Progress.summary, reflects.converted, reflects.size, reflects.store,
      blocks_changelogs course rfl]

/-- In whatever order the changelogs are met, going through them succeeds or does
not, and where it succeeds it converts the same changelogs with the same jars,
lists the same projects, fetches the same jars and reports the same numbers. -/
theorem conversions_ignore_order (answers : Answers) (tools : Toolchain σ) (settings : Settings)
    (world : World σ) {changelogs changelogs' : List Path} (same : changelogs.Perm changelogs') :
    let one := (convertAll tools settings changelogs).perform world
    let other := (convertAll tools settings changelogs').perform world
    ∃ calls calls', Accounts tools world one.2 calls ∧ Accounts tools world other.2 calls' ∧
      ((∀ call ∈ calls ++ calls', Follows answers world.cwd settings changelogs call) →
        ((∃ progress, one.1 = .ok progress) ↔ ∃ progress, other.1 = .ok progress) ∧
        ∀ progress progress', one.1 = .ok progress → other.1 = .ok progress' →
          ((calls.filter isConversion).map Call.exchange).Perm
              ((calls'.filter isConversion).map Call.exchange) ∧
            (calls.filterMap listed?).Perm (calls'.filterMap listed?) ∧
            ((calls.filter isDownload).map Call.exchange).Perm
              ((calls'.filter isDownload).map Call.exchange) ∧
            progress.summary.manifests = progress'.summary.manifests ∧
            progress.summary.downloads = progress'.summary.downloads) := by
  intro one other
  obtain ⟨calls, blocks, failure?, after, course, account, through, reported⟩ :=
    convertAll_course tools settings changelogs world
  obtain ⟨calls', blocks', failure?', after', course', account', through', reported'⟩ :=
    convertAll_course tools settings changelogs' world
  refine ⟨calls, calls', account, account', fun follow => ?_⟩
  obtain ⟨mine, theirs⟩ := List.forall_mem_append.mp follow
  have theirs : ∀ call ∈ calls', Follows answers world.cwd settings changelogs' call :=
    fun call made => ⟨(theirs call made).due,
      fun changelog member => (theirs call made).manifests changelog (same.mem_iff.mpr member),
      (theirs call made).jars⟩
  refine ⟨?_, fun progress progress' finished finished' => ?_⟩
  · rw [through, through',
      (blocks_right course (List.forall_mem_nil _) mine (List.Subset.refl _)).1,
      (blocks_right course' (List.forall_mem_nil _) theirs (List.Subset.refl _)).1]
    exact forall_congr' fun changelog => by rw [same.mem_iff]
  · obtain rfl := through.mp ⟨progress, finished⟩
    obtain rfl := through'.mp ⟨progress', finished'⟩
    obtain ⟨conversions, listings, downloads⟩ := blocks_perm same course course' mine theirs
    refine ⟨conversions, listings, downloads, ?_, ?_⟩
    · rw [reported _ finished, reported' _ finished']
      simpa only [length_listed] using listings.length_eq
    · rw [reported _ finished, reported' _ finished']
      simpa only [List.length_map, ← List.countP_eq_length_filter] using downloads.length_eq

/-- The answers of the collaborators that are content with everything. -/
def smallAnswers : Answers where
  listing _ := .ok smallListing
  download _ := .ok .fetched
  conversion _ _ := .ok true
  spelled _ _ _ := rfl

theorem smallAnswers_speaks : smallAnswers.Speaks version ↔ version = "4" := by
  have read : Version.inListing? smallListing = some "4" := by decide
  constructor
  · rintro ⟨project, listing, answer, found⟩
    cases answer
    rw [read] at found
    exact (Option.some.inj found).symm
  · rintro rfl
    exact ⟨Path.ofString "/p", _, rfl, read⟩

/-- Two changelogs of the small project. -/
def smallPair : List Path :=
  [Path.ofString "/p/a.xml", Path.ofString "/p/b.xml"]

/-- The calls for two changelogs of the small project: the first pays for both. -/
def pairCalls (first second : Path) : List (Call Unit) :=
  let start : Moment Unit := ⟨smallDisk, ()⟩
  let stocked : Moment Unit := ⟨stockedDisk, ()⟩
  let jar := jarFor smallSettings "4"
  [⟨start, .dependencies (Path.ofString "/p") (.ok smallListing), start⟩,
    ⟨start, .download jar.url jar.path (.ok .fetched), stocked⟩,
    ⟨stocked, .convert jar.path first (.ok true), stocked⟩,
    ⟨stocked, .convert jar.path second (.ok true), stocked⟩]

theorem pair_manifest (member : changelog ∈ smallPair) :
    manifestAt [] smallSettings.root changelog (⟨smallDisk, ()⟩ : Moment Unit) =
        some (Path.ofString "/p/pom.xml") ∧
      manifestAt [] smallSettings.root changelog (⟨stockedDisk, ()⟩ : Moment Unit) =
        some (Path.ofString "/p/pom.xml") := by
  revert changelog
  decide

theorem pair_converted {first second : Path} (one : first ∈ smallPair) (other : second ∈ smallPair) :
    let done := (convertAll smallTools smallSettings [first, second]).perform smallWorld
    (∃ progress, done.1 = .ok progress) ∧
      Accounts smallTools smallWorld done.2 (pairCalls first second) := by
  intro done
  have course : ∃ blocks, Blocks smallTools [] smallSettings [] [first, second] ⟨smallDisk, ()⟩
      (pairCalls first second) blocks none ⟨stockedDisk, ()⟩ :=
    ⟨_, .converted
      (.converted (.listed (pair_manifest one).1 rfl (by decide) ⟨rfl, rfl, rfl⟩ (by decide))
        (.fetched (by decide) ⟨rfl, rfl, rfl⟩) ⟨rfl, rfl, rfl⟩)
      (.converted
        (.converted (.remembered (pair_manifest other).2 rfl) (.present (by decide))
          ⟨rfl, rfl, rfl⟩)
        .done)⟩
  obtain ⟨blocks, course⟩ := course
  obtain ⟨progress, -, performs⟩ := (blocks_perform course (reflects_start smallSettings)).2 rfl
  obtain ⟨final, performed, account, -⟩ := performs smallWorld rfl rfl
  have same : done = (.ok progress, final) := performed
  rw [same]
  exact ⟨⟨progress, rfl⟩, account⟩

theorem pair_follows {first second : Path} {call : Call Unit} (made : call ∈ pairCalls first second) :
    Follows smallAnswers [] smallSettings smallPair call := by
  simp only [pairCalls, List.mem_cons, List.not_mem_nil, or_false] at made
  obtain listed | fetched | converted | converted := made
  · subst listed
    exact ⟨rfl, fun _ _ _ _ => rfl, by simp [fetchesTo]⟩
  · subst fetched
    refine ⟨rfl, by decide, fun version spoken => ?_⟩
    rw [smallAnswers_speaks.mp spoken]
    decide
  all_goals
    subst converted
    exact ⟨rfl, fun _ _ _ _ => rfl, by simp [fetchesTo]⟩

/-- Two changelogs of one project go through whichever comes first, and the numbers
are the same. -/
theorem pair_ignores_order :
    ∃ progress progress',
      ((convertAll smallTools smallSettings smallPair).perform smallWorld).1 = .ok progress ∧
      ((convertAll smallTools smallSettings smallPair.reverse).perform smallWorld).1 = .ok progress' ∧
      progress.summary.manifests = progress'.summary.manifests ∧
      progress.summary.downloads = progress'.summary.downloads := by
  obtain ⟨calls, calls', account, account', follow⟩ := conversions_ignore_order smallAnswers
    smallTools smallSettings smallWorld smallPair.reverse_perm.symm
  have one : Path.ofString "/p/a.xml" ∈ smallPair := by decide
  have other : Path.ofString "/p/b.xml" ∈ smallPair := by decide
  obtain ⟨⟨progress, through⟩, pair⟩ := pair_converted one other
  obtain ⟨⟨progress', through'⟩, pair'⟩ := pair_converted other one
  obtain rfl := account.unique pair
  obtain rfl := account'.unique pair'
  have follows : ∀ call ∈ pairCalls (Path.ofString "/p/a.xml") (Path.ofString "/p/b.xml") ++
      pairCalls (Path.ofString "/p/b.xml") (Path.ofString "/p/a.xml"),
      Follows smallAnswers [] smallSettings smallPair call :=
    List.forall_mem_append.mpr ⟨fun _ => pair_follows, fun _ => pair_follows⟩
  obtain ⟨-, -, -, manifests, downloads⟩ := (follow follows).2 progress progress' through through'
  exact ⟨progress, progress', through, through', manifests, downloads⟩

end ChangelogSql.ConversionOrder
