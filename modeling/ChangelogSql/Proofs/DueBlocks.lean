import Mathlib.Data.List.Find
import ChangelogSql.Proofs.RunAccounting

/-! What becomes of a changelog, told without the blocks before it. Which block
lists a manifest and which one fetches a jar depends on the order in which the
changelogs are met, but as long as the collaborators answer by what they are
asked, the disk at the start decides what each block comes to. -/
namespace ChangelogSql.DueBlocks
open Files Conversion CallAccounts PathComponents ResolutionMemo RunCourse RunAccounting

variable {σ : Type}

/-- Answers that depend on nothing but what is asked. -/
structure Answers where
  listing : Path → Except Failure String
  download : String → Except Failure Download
  conversion : Path → Path → Except Failure Bool
  /-- The spelling of a directory does not matter. -/
  spelled : ∀ project other : Path, project.sameAs other = true → listing project = listing other

namespace Answers

/-- The exchange has the answer that is due. -/
def Give (answers : Answers) : Exchange → Prop
  | .workingTree .. => True
  | .dependencies project answer => answer = answers.listing project
  | .download url _ answer => answer = answers.download url
  | .convert jar changelog answer => answer = answers.conversion jar changelog

/-- The version that is listed for a manifest. -/
def version? (answers : Answers) (manifest : Path) : Option String := do
  let project ← manifest.parent?
  let listing ← (answers.listing project).toOption
  Version.inListing? listing

/-- Some listing has this version. -/
def Speaks (answers : Answers) (version : String) : Prop :=
  ∃ project listing, answers.listing project = .ok listing ∧
    Version.inListing? listing = some version

end Answers

/-- A call has the answer that is due, and does nothing to the manifests of these
changelogs and to the jars but to bring the jar that it has fetched. -/
structure Follows (answers : Answers) (cwd : Location) (settings : Settings)
    (changelogs : List Path) (call : Call σ) : Prop where
  due : answers.Give call.exchange
  manifests : ∀ changelog ∈ changelogs,
    ∀ directory ∈ Manifest.directories (changelog.parent?.getD settings.root) settings.root,
      (call.after.view cwd).isFile (directory.join Manifest.fileName) =
        (call.before.view cwd).isFile (directory.join Manifest.fileName)
  jars : ∀ version, answers.Speaks version →
    isThere cwd settings call.after version =
      (isThere cwd settings call.before version || fetchesTo (jarFor settings version).path call)

/-- The block that a changelog amounts to, as the disk is at one moment. -/
def blockAt (answers : Answers) (cwd : Location) (settings : Settings) (now : Moment σ)
    (changelog : Path) : Option Block := do
  let manifest ← manifestAt cwd settings.root changelog now
  let version ← answers.version? manifest
  return ⟨changelog, manifest, version⟩

/-- A changelog can be converted: it has a version, the jar for that is there or
can be fetched, and the converter succeeds. -/
def Convertible (answers : Answers) (cwd : Location) (settings : Settings) (now : Moment σ)
    (changelog : Path) : Prop :=
  ∃ block, blockAt answers cwd settings now changelog = some block ∧
    (isThere cwd settings now block.version = true ∨
      answers.download (jarFor settings block.version).url = .ok .fetched) ∧
    answers.conversion (jarFor settings block.version).path changelog = .ok true

/-- Each of some blocks has the version that is listed for its manifest. -/
def Right (answers : Answers) (blocks : List Block) : Prop :=
  ∀ block ∈ blocks, answers.version? block.manifest = some block.version

variable {answers : Answers} {tools : Toolchain σ} {cwd : Location} {settings : Settings}
variable {now after : Moment σ} {calls : List (Call σ)} {changelogs : List Path} {changelog : Path}
variable {earlier blocks : List Block} {block : Block} {version : String}

/-- All spellings of a manifest have one version. -/
theorem version_congr {manifest other : Path} (same : manifest.sameAs other = true) :
    answers.version? manifest = answers.version? other := by
  cases above : manifest.parent? with
  | none =>
    have beyond : other.parent? = none := by
      have equal : manifest.components = other.components := by simpa [Path.sameAs] using same
      rw [parent_eq_none_iff, ← equal, ← parent_eq_none_iff, above]
    simp [Answers.version?, above, beyond]
  | some project =>
    obtain ⟨project', beyond, spelled⟩ := parent_sameAs same above
    simp [Answers.version?, above, beyond, answers.spelled _ _ spelled]

theorem speaks_of_version {manifest : Path} (listed : answers.version? manifest = some version) :
    answers.Speaks version := by
  simp only [Answers.version?, Option.bind_eq_bind, Option.bind_eq_some_iff] at listed
  obtain ⟨project, -, listing, answer, found⟩ := listed
  refine ⟨project, listing, ?_, found⟩
  cases given : answers.listing project with
  | error failure =>
    rw [given] at answer
    cases answer
  | ok text =>
    rw [given] at answer
    cases answer
    rfl

/-- What is known from right blocks is right. -/
theorem versionFrom_right {manifest : Path} (right : Right answers earlier)
    (met : versionFrom earlier manifest = some version) :
    answers.version? manifest = some version := by
  simp only [versionFrom, Option.map_eq_some_iff] at met
  obtain ⟨block, found, rfl⟩ := met
  have same : block.manifest.sameAs manifest = true := by simpa using List.find?_some found
  rw [← version_congr same]
  exact right block (List.mem_of_find?_eq_some found)

/-- Resolving comes to what is listed, whether it is listed now or was before. -/
theorem resolving_right {outcome : Except Failure Resolution} (right : Right answers earlier)
    (resolving : Resolving tools cwd settings.root (versionFrom earlier) changelog now calls outcome after)
    (follow : ∀ call ∈ calls, answers.Give call.exchange) :
    blockAt answers cwd settings now changelog =
      outcome.toOption.map fun found => ⟨changelog, found.manifest, found.version⟩ := by
  cases resolving with
  | orphan nowhere => simp [blockAt, nowhere, Except.toOption]
  | remembered nearest met =>
    simp [blockAt, nearest, versionFrom_right right met, Except.toOption]
  | unlisted nearest new directory asked =>
    have due := follow _ (List.mem_singleton_self _)
    simp only [Answers.Give] at due
    simp [blockAt, nearest, Answers.version?, directory, ← due, Except.toOption]
  | unversioned nearest new directory asked silent =>
    have due := follow _ (List.mem_singleton_self _)
    simp only [Answers.Give] at due
    simp [blockAt, nearest, Answers.version?, directory, ← due, Except.toOption, silent]
  | listed nearest new directory asked found =>
    have due := follow _ (List.mem_singleton_self _)
    simp only [Answers.Give] at due
    simp [blockAt, nearest, Answers.version?, directory, ← due, Except.toOption, found]

/-- A jar is supplied if it is there or its download is answered with it. -/
theorem supplying_iff {outcome : Except Failure Unit}
    (supplying : Supplying tools cwd (jarFor settings version) now calls outcome after)
    (follow : ∀ call ∈ calls, answers.Give call.exchange) :
    outcome = .ok () ↔ isThere cwd settings now version = true ∨
      answers.download (jarFor settings version).url = .ok .fetched := by
  cases supplying with
  | present there => simp [isThere, there]
  | fetched missing asked =>
    have due := follow _ (List.mem_singleton_self _)
    simp only [Answers.Give] at due
    simp [← due]
  | unfetched missing asked =>
    have due := follow _ (List.mem_singleton_self _)
    simp only [Answers.Give] at due
    simp [isThere, missing, ← due]
  | refused missing asked =>
    have due := follow _ (List.mem_singleton_self _)
    simp only [Answers.Give] at due
    simp [isThere, missing, ← due]

/-- Calls that follow the answers keep the jars for all versions that are listed. -/
theorem keeps_of_follows {versions : Finset String} {call : Call σ}
    (follows : Follows answers cwd settings changelogs call)
    (speaks : ∀ version ∈ versions, answers.Speaks version) : Keeps cwd settings versions call :=
  fun version used => follows.jars version (speaks version used)

theorem convertible_iff (due : blockAt answers cwd settings now changelog = some block) :
    Convertible answers cwd settings now changelog ↔
      (isThere cwd settings now block.version = true ∨
        answers.download (jarFor settings block.version).url = .ok .fetched) ∧
      answers.conversion (jarFor settings block.version).path changelog = .ok true := by
  constructor
  · rintro ⟨other, due', rest⟩
    rw [due] at due'
    cases due'
    exact rest
  · exact fun rest => ⟨block, due, rest⟩

theorem speaks_of_blockAt (due : blockAt answers cwd settings now changelog = some block) :
    answers.version? block.manifest = some block.version ∧ answers.Speaks block.version := by
  simp only [blockAt, Option.bind_eq_bind, Option.bind_eq_some_iff] at due
  obtain ⟨manifest, -, version, listed, made⟩ := due
  cases made
  exact ⟨listed, speaks_of_version listed⟩

/-- A jar that is supplied to a block was there before the block, or its download
is answered with it: listing does nothing to the jars. -/
theorem supplied_iff {found : Resolution} {resolved : Moment σ} {more : List (Call σ)}
    {outcome : Except Failure Unit}
    (due : blockAt answers cwd settings now changelog =
      some ⟨changelog, found.manifest, found.version⟩)
    (resolving : Resolving tools cwd settings.root (versionFrom earlier) changelog now calls
      (.ok found) resolved)
    (supplying : Supplying tools cwd (jarFor settings found.version) resolved more outcome after)
    (listed : ∀ call ∈ calls, Follows answers cwd settings changelogs call)
    (fetched : ∀ call ∈ more, Follows answers cwd settings changelogs call) :
    outcome = .ok () ↔ isThere cwd settings now found.version = true ∨
      answers.download (jarFor settings found.version).url = .ok .fetched := by
  have speaks : ∀ version ∈ ({found.version} : Finset String), answers.Speaks version := by
    intro version used
    rw [Finset.mem_singleton.mp used]
    exact (speaks_of_blockAt due).2
  have same := resolving_isThere resolving (fun call made => keeps_of_follows (listed call made) speaks)
    (Finset.mem_singleton_self found.version)
  rw [← same]
  exact supplying_iff supplying fun call made => (fetched call made).due

/-- A changelog is converted exactly if it can be, and then its block is the one
that is due. -/
theorem converting_right {outcome : Except Failure Block} (right : Right answers earlier)
    (converting : Converting tools cwd settings earlier changelog now calls outcome after)
    (follow : ∀ call ∈ calls, Follows answers cwd settings changelogs call) :
    (∀ block, outcome = .ok block → blockAt answers cwd settings now changelog = some block) ∧
      ((∃ block, outcome = .ok block) ↔ Convertible answers cwd settings now changelog) := by
  have resolved {calls : List (Call σ)} {outcome : Except Failure Resolution} {after : Moment σ}
      (resolving : Resolving tools cwd settings.root (versionFrom earlier) changelog now calls outcome after)
      (follow : ∀ call ∈ calls, Follows answers cwd settings changelogs call) :
      blockAt answers cwd settings now changelog =
        outcome.toOption.map fun found => ⟨changelog, found.manifest, found.version⟩ :=
    resolving_right right resolving fun call made => (follow call made).due
  cases converting with
  | unresolved resolving =>
    have nothing := resolved resolving follow
    refine ⟨by simp, by simp, ?_⟩
    rintro ⟨block, due, -⟩
    rw [nothing] at due
    cases due
  | unsupplied resolving supplying =>
    obtain ⟨listed, fetched⟩ := List.forall_mem_append.mp follow
    have due := resolved resolving listed
    have never := supplied_iff due resolving supplying listed fetched
    refine ⟨by simp, ?_⟩
    rw [convertible_iff due, ← never]
    simp
  | refused resolving supplying asked | unconverted resolving supplying asked =>
    obtain ⟨listed, others⟩ := List.forall_mem_append.mp follow
    obtain ⟨-, converted⟩ := List.forall_mem_append.mp others
    have answer := (converted _ (List.mem_singleton_self _)).due
    simp only [Answers.Give] at answer
    refine ⟨by simp, ?_⟩
    rw [convertible_iff (resolved resolving listed), ← answer]
    simp
  | converted resolving supplying asked =>
    obtain ⟨listed, others⟩ := List.forall_mem_append.mp follow
    obtain ⟨fetched, converted⟩ := List.forall_mem_append.mp others
    have answer := (converted _ (List.mem_singleton_self _)).due
    simp only [Answers.Give] at answer
    have due := resolved resolving listed
    have always := supplied_iff due resolving supplying listed fetched
    refine ⟨?_, ?_⟩
    · rintro _ ⟨⟩
      exact due
    · rw [convertible_iff due, ← always, ← answer]
      simp

theorem converting_chain {outcome : Except Failure Block}
    (converting : Converting tools cwd settings earlier changelog now calls outcome after) :
    Chain tools cwd now calls after := by
  cases converting with
  | unresolved resolving => exact resolving_chain resolving
  | unsupplied resolving supplying =>
    exact (resolving_chain resolving).append (supplying_chain supplying)
  | refused resolving supplying asked | unconverted resolving supplying asked
  | converted resolving supplying asked =>
    exact (resolving_chain resolving).append
      ((supplying_chain supplying).append (.next asked .none))

/-- Calls that follow the answers leave each changelog its manifest, and so its block. -/
theorem blockAt_after (chain : Chain tools cwd now calls after)
    (follow : ∀ call ∈ calls, Follows answers cwd settings changelogs call)
    (member : changelog ∈ changelogs) :
    blockAt answers cwd settings after changelog = blockAt answers cwd settings now changelog := by
  induction chain with
  | none => rfl
  | @next before exchange middle calls finish answered more ih =>
    obtain ⟨first, others⟩ := List.forall_mem_cons.mp follow
    have kept : manifestAt cwd settings.root changelog middle =
        manifestAt cwd settings.root changelog before := by
      refine List.find?_congr fun manifest above => ?_
      obtain ⟨directory, within, rfl⟩ := List.mem_map.mp above
      exact first.manifests changelog member directory within
    rw [ih others, blockAt, blockAt, kept]

/-- Once a changelog is converted, the others can be converted exactly if they
could before: what was fetched for it could have been fetched for them. -/
theorem convertible_after {other : Path} (right : Right answers earlier)
    (converting : Converting tools cwd settings earlier changelog now calls (.ok block) after)
    (follow : ∀ call ∈ calls, Follows answers cwd settings changelogs call)
    (member : other ∈ changelogs) :
    Convertible answers cwd settings after other ↔ Convertible answers cwd settings now other := by
  obtain ⟨due, convertible⟩ := converting_right right converting follow
  have mine := due block rfl
  obtain ⟨supplied, -⟩ := (convertible_iff mine).mp (convertible.mp ⟨block, rfl⟩)
  have same := blockAt_after (converting_chain converting) follow member
  cases theirs : blockAt answers cwd settings now other with
  | none =>
    rw [theirs] at same
    simp [Convertible, same, theirs]
  | some another =>
    rw [theirs] at same
    rw [convertible_iff same, convertible_iff theirs]
    have speaks : ∀ version ∈ ({block.version, another.version} : Finset String),
        answers.Speaks version := by
      simp [(speaks_of_blockAt mine).2, (speaks_of_blockAt theirs).2]
    obtain ⟨-, there⟩ := converting_isThere converting
      (fun call made => keeps_of_follows (follow call made) speaks) (Finset.mem_insert_self _ _)
    rw [there another.version (by simp)]
    by_cases shared : another.version = block.version
    · simp [shared, supplied]
    · simp [shared]

/-- The loop goes through exactly if each changelog can be converted as the disk is
when it begins, and then the blocks are those that are due at that moment. -/
theorem blocks_right {rest : List Path} {failure? : Option Failure}
    (course : Blocks tools cwd settings earlier rest now calls blocks failure? after)
    (right : Right answers earlier)
    (follow : ∀ call ∈ calls, Follows answers cwd settings changelogs call)
    (within : rest ⊆ changelogs) :
    (failure? = none ↔ ∀ changelog ∈ rest, Convertible answers cwd settings now changelog) ∧
      (failure? = none → blocks = rest.filterMap (blockAt answers cwd settings now)) := by
  induction course with
  | done => simp
  | failed converting =>
    obtain ⟨-, convertible⟩ := converting_right right converting follow
    have never := mt convertible.mpr (by simp)
    simp [never]
  | @converted earlier changelog now calls block middle rest more blocks failure? after
      converting _ ih =>
    obtain ⟨mine, others⟩ := List.forall_mem_append.mp follow
    obtain ⟨-, below⟩ := List.cons_subset.mp within
    obtain ⟨due, convertible⟩ := converting_right right converting mine
    have right' : Right answers (earlier ++ [block]) := by
      refine List.forall_mem_append.mpr ⟨right, ?_⟩
      simpa using (speaks_of_blockAt (due block rfl)).1
    obtain ⟨through, made⟩ := ih right' others below
    have first := convertible.mp ⟨block, rfl⟩
    refine ⟨?_, fun finished => ?_⟩
    · rw [through, List.forall_mem_cons]
      have same : ∀ other ∈ rest, (Convertible answers cwd settings middle other ↔
          Convertible answers cwd settings now other) := fun other member =>
        convertible_after right converting mine (below member)
      simp only [first, true_and]
      exact forall₂_congr same
    · have same : ∀ other ∈ rest, blockAt answers cwd settings middle other =
          blockAt answers cwd settings now other := fun other member =>
        blockAt_after (converting_chain converting) mine (below member)
      rw [List.filterMap_cons_some (due block rfl), made finished, List.filterMap_congr same]

end ChangelogSql.DueBlocks
