import Mathlib.Data.Finset.Card
import Mathlib.Data.Finset.Dedup
import ChangelogSql.Proofs.RunCourse
import ChangelogSql.Proofs.TreeWalk

/-! The numbers of a run that went through. They are kept in three places, a list,
a memo and a counter; told from the calls instead, a listing stands for a manifest
that is met for the first time, and a download for a jar that was missing. -/
namespace ChangelogSql.RunAccounting
open Files Conversion CallAccounts ResolutionMemo RunCourse TreeWalk

variable {σ : Type}

/-- The call asks for a conversion. -/
def isConversion (call : Call σ) : Bool :=
  match call.exchange with
  | .convert .. => true
  | _ => false

/-- The address a call asks to download from. -/
def address? (call : Call σ) : Option String :=
  match call.exchange with
  | .download url .. => some url
  | _ => none

/-- The call has fetched something to this path. -/
def fetchesTo (path : Path) (call : Call σ) : Bool :=
  match call.exchange with
  | .download _ destination (.ok .fetched) => destination = path
  | _ => false

/-- The exchange in which a block converts its changelog. -/
def conversionOf (settings : Settings) (block : Block) : Exchange :=
  .convert (jarFor settings block.version).path block.changelog (.ok true)

/-- The manifests of some blocks, each told by what its path denotes. -/
def manifestsOf (blocks : List Block) : Finset (List Path.Component) :=
  (blocks.map fun block => block.manifest.components).toFinset

/-- The versions that some blocks were converted for. -/
def versionsOf (blocks : List Block) : Finset String :=
  (blocks.map Block.version).toFinset

/-- The jar for a version is there at this moment. -/
def isThere (cwd : Location) (settings : Settings) (now : Moment σ) (version : String) : Bool :=
  (now.view cwd).isFile (jarFor settings version).path

/-- A call leaves the jars for these versions as they are, there or not, but for
the one it has fetched, which is there afterwards. -/
def Keeps (cwd : Location) (settings : Settings) (versions : Finset String) (call : Call σ) : Prop :=
  ∀ version ∈ versions, isThere cwd settings call.after version =
    (isThere cwd settings call.before version || fetchesTo (jarFor settings version).path call)

variable {tools : Toolchain σ} {cwd : Location} {settings : Settings} {now after : Moment σ}
variable {earlier blocks : List Block} {block : Block} {changelogs : List Path}
variable {calls : List (Call σ)} {versions : Finset String} {version version' : String}

private theorem ofString_bytes (text : String) : (Bytes.ofString text).toByteArray = text.toByteArray :=
  String.utf8Encode_toList

theorem ofString_injective : Function.Injective Bytes.ofString := by
  intro text other same
  rw [← String.toByteArray_inj, ← ofString_bytes, ← ofString_bytes, same]

theorem ofString_append (text other : String) :
    Bytes.ofString (text ++ other) = Bytes.ofString text ++ Bytes.ofString other := by
  simp only [Bytes.ofString, Text.Utf8.encode, String.toList_append, List.flatMap_append]

private theorem fileName_injective (same : "liquify-" ++ version ++ ".jar" = "liquify-" ++ version' ++ ".jar") :
    version = version' := by
  rwa [String.append_left_inj, String.append_right_inj] at same

/-- The name of a jar's file does not start at the top. -/
theorem jar_name_relative (version : String) :
    (Path.ofString ("liquify-" ++ version ++ ".jar")).isAbsolute = false := by
  rw [Path.isAbsolute, Path.ofString, ofString_append, ofString_append]
  rfl

/-- The path of a jar is the directory's with the name of its file behind it. -/
theorem forVersion_path_bytes (version : String) (directory : Path) (base : String) :
    (Jar.forVersion version directory base).path.bytes =
      (directory.join ⟨[]⟩).bytes ++ Bytes.ofString ("liquify-" ++ version ++ ".jar") :=
  PathComponents.join_relative directory (jar_name_relative version)

/-- Different versions have jars at different paths. -/
theorem forVersion_path_inj {directory : Path} {base : String} :
    (Jar.forVersion version directory base).path = (Jar.forVersion version' directory base).path ↔
      version = version' := by
  refine ⟨fun same => ?_, fun same => same ▸ rfl⟩
  have written := congrArg Path.bytes same
  rw [forVersion_path_bytes, forVersion_path_bytes] at written
  exact fileName_injective (ofString_injective (List.append_cancel_left written))

/-- Different versions have jars at different addresses. -/
theorem forVersion_url_injective (directory : Path) (base : String) :
    Function.Injective fun version => (Jar.forVersion version directory base).url := by
  intro version version' same
  simp only [Jar.forVersion, String.append_right_inj] at same
  exact fileName_injective same

theorem jar_path_inj :
    (jarFor settings version).path = (jarFor settings version').path ↔ version = version' :=
  forVersion_path_inj

theorem jar_url_injective (settings : Settings) :
    Function.Injective fun version => (jarFor settings version).url :=
  forVersion_url_injective settings.artifactDirectory settings.baseUrl

theorem mem_manifestsOf {manifest : Path} : manifest.components ∈ manifestsOf blocks ↔
    ∃ block ∈ blocks, block.manifest.sameAs manifest = true := by
  simp [manifestsOf, Path.sameAs]

/-- A manifest has a version exactly if some block belonged to it. -/
theorem known_iff {manifest : Path} :
    versionFrom earlier manifest = none ↔ manifest.components ∉ manifestsOf earlier := by
  rw [versionFrom_eq_none_iff, mem_manifestsOf]
  simp

/-- Resolving asks for a listing exactly where no earlier block had the manifest. -/
theorem resolving_listings
    (resolving : Resolving tools cwd root (versionFrom earlier) changelog now calls (.ok found) after) :
    calls.countP isListing = if found.manifest.components ∈ manifestsOf earlier then 0 else 1 := by
  obtain ⟨-, ⟨-, met, rfl, -⟩ | ⟨-, new, -, -, -, rfl, -, -⟩⟩ := resolving_found resolving
  · have member : found.manifest.components ∈ manifestsOf earlier := by
      by_contra absent
      rw [known_iff.mpr absent] at met
      cases met
    rw [if_pos member]
    rfl
  · rw [if_neg (known_iff.mp new)]
    rfl

/-- A block has one listing if its manifest is new, and else none. -/
theorem converting_listings
    (converting : Converting tools cwd settings earlier changelog now calls (.ok block) after) :
    calls.countP isListing = if block.manifest.components ∈ manifestsOf earlier then 0 else 1 := by
  cases converting with
  | converted resolving supplying =>
    simp [resolving_listings resolving, supplying_listings supplying, isListing]

/-- Taking an element to what is counted adds one, unless it is known. -/
private theorem card_insert_sdiff {α : Type} [DecidableEq α] (a : α) (all known : Finset α) :
    (insert a all \ known).card =
      (if a ∈ known then 0 else 1) + (all \ insert a known).card := by
  split
  next member => rw [Finset.insert_sdiff_of_mem _ member, Finset.insert_eq_of_mem member, Nat.zero_add]
  next absent =>
    have again : insert a all \ known = insert a (all \ insert a known) := by
      ext b
      simp only [Finset.mem_insert, Finset.mem_sdiff]
      grind
    rw [again, Finset.card_insert_of_notMem (by simp), Nat.add_comm]

/-- The listings of some blocks are as many as the manifests they are the first to have. -/
theorem blocks_listings
    (course : Blocks tools cwd settings earlier changelogs now calls blocks failure? after)
    (through : failure? = none) :
    calls.countP isListing = (manifestsOf blocks \ manifestsOf earlier).card := by
  induction course with
  | done => simp [manifestsOf]
  | failed => cases through
  | @converted earlier changelog now calls block middle rest more blocks failure? after
      converting _ ih =>
    have grown : manifestsOf (earlier ++ [block]) =
        insert block.manifest.components (manifestsOf earlier) := by
      ext manifest
      simp [manifestsOf]
    have whole : manifestsOf (block :: blocks) =
        insert block.manifest.components (manifestsOf blocks) := List.toFinset_cons
    rw [List.countP_append, converting_listings converting, ih through, grown, whole,
      card_insert_sdiff]

theorem resolving_chain {known : Path → Option String}
    (resolving : Resolving tools cwd root known changelog now calls outcome after) :
    Chain tools cwd now calls after := by
  cases resolving with
  | orphan | remembered => exact .none
  | unlisted _ _ _ asked | unversioned _ _ _ asked | listed _ _ _ asked => exact .next asked .none

theorem supplying_chain (supplying : Supplying tools cwd jar now calls outcome after) :
    Chain tools cwd now calls after := by
  cases supplying with
  | present => exact .none
  | fetched _ asked | unfetched _ asked | refused _ asked => exact .next asked .none

/-- Over calls that keep the jars, a jar is there afterwards if it was there before
or if one of the calls has fetched it. -/
theorem chain_isThere (chain : Chain tools cwd now calls after)
    (keep : ∀ call ∈ calls, Keeps cwd settings versions call) (used : version ∈ versions) :
    isThere cwd settings after version = (isThere cwd settings now version ||
      calls.any (fetchesTo (jarFor settings version).path)) := by
  induction chain with
  | none => simp
  | next answered more ih =>
    obtain ⟨first, others⟩ := List.forall_mem_cons.mp keep
    rw [ih others, first version used, List.any_cons, Bool.or_assoc]

/-- Resolving leaves the jars alone. -/
theorem resolving_isThere {known : Path → Option String}
    (resolving : Resolving tools cwd root known changelog now calls outcome after)
    (keep : ∀ call ∈ calls, Keeps cwd settings versions call) (used : version ∈ versions) :
    isThere cwd settings after version = isThere cwd settings now version := by
  rw [chain_isThere (resolving_chain resolving) keep used]
  cases resolving <;> simp [fetchesTo]

/-- Supplying the jar for a version asks for its address if it is not there, and
afterwards it is, while the others are left alone. -/
theorem supplying_isThere
    (supplying : Supplying tools cwd (jarFor settings version) now calls (.ok ()) after)
    (keep : ∀ call ∈ calls, Keeps cwd settings versions call) :
    calls.filterMap address? =
        (if isThere cwd settings now version then [] else [(jarFor settings version).url]) ∧
      ∀ other ∈ versions, isThere cwd settings after other =
        (isThere cwd settings now other || other = version) := by
  have kept := fun other (used : other ∈ versions) =>
    chain_isThere (supplying_chain supplying) keep used
  cases supplying with
  | present there =>
    refine ⟨by simp [isThere, there], fun other used => ?_⟩
    by_cases same : other = version
    · simp [isThere, same, there]
    · simp [same]
  | fetched missing asked =>
    refine ⟨by simp [isThere, missing, address?], fun other used => ?_⟩
    rw [kept other used]
    simp [fetchesTo, jar_path_inj, eq_comm]

/-- A block asks for the address of its jar if it is not there, and afterwards it
is, while the others are left alone. -/
theorem converting_isThere
    (converting : Converting tools cwd settings earlier changelog now calls (.ok block) after)
    (keep : ∀ call ∈ calls, Keeps cwd settings versions call) (used : block.version ∈ versions) :
    calls.filterMap address? =
        (if isThere cwd settings now block.version then [] else [(jarFor settings block.version).url]) ∧
      ∀ version ∈ versions, isThere cwd settings after version =
        (isThere cwd settings now version || version = block.version) := by
  cases converting with
  | @converted calls found resolved more supplied after resolving supplying asked =>
    simp only [List.forall_mem_append] at keep
    obtain ⟨listed, fetched, converted⟩ := keep
    have unchanged := fun version (used : version ∈ versions) =>
      resolving_isThere resolving listed used
    obtain ⟨addresses, there⟩ := supplying_isThere supplying fetched
    have silent : calls.filterMap address? = [] := by
      cases resolving <;> simp [address?]
    refine ⟨?_, fun version used => ?_⟩
    · rw [← unchanged _ used, ← addresses]
      simp [silent, address?]
    · rw [chain_isThere (.next asked .none) converted used, there version used,
        unchanged version used]
      simp [fetchesTo]

/-- As long as the calls keep the jars, the addresses asked for are those of the
versions whose jars were missing at the start, each once. -/
theorem blocks_addresses
    (course : Blocks tools cwd settings earlier changelogs now calls blocks failure? after)
    (through : failure? = none) (keep : ∀ call ∈ calls, Keeps cwd settings versions call)
    (used : versionsOf blocks ⊆ versions) :
    ∃ fetched : List String, fetched.Nodup ∧
      calls.filterMap address? = fetched.map (fun version => (jarFor settings version).url) ∧
      fetched.toFinset = (versionsOf blocks).filter fun version => isThere cwd settings now version = false := by
  induction course with
  | done => exact ⟨[], .nil, rfl, rfl⟩
  | failed => cases through
  | @converted earlier changelog now calls block middle rest more blocks failure? after
      converting _ ih =>
    have whole : versionsOf (block :: blocks) = insert block.version (versionsOf blocks) :=
      List.toFinset_cons
    rw [whole, Finset.insert_subset_iff] at used
    simp only [List.forall_mem_append] at keep
    obtain ⟨addresses, there⟩ := converting_isThere converting keep.1 used.1
    obtain ⟨fetched, nodup, others, missing⟩ := ih through keep.2 used.2
    rw [List.filterMap_append, addresses, others, whole]
    have later (version : String) : version ∈ fetched ↔ version ∈ versionsOf blocks ∧
        isThere cwd settings now version = false ∧ version ≠ block.version := by
      rw [← List.mem_toFinset, missing, Finset.mem_filter]
      refine and_congr_right fun member => ?_
      rw [there version (used.2 member)]
      simp
    cases present : isThere cwd settings now block.version with
    | true =>
      refine ⟨fetched, nodup, by simp, ?_⟩
      ext version
      simp only [List.mem_toFinset, later, Finset.mem_filter, Finset.mem_insert]
      grind
    | false =>
      refine ⟨block.version :: fetched, ?_, by simp, ?_⟩
      · exact List.nodup_cons.mpr ⟨by simp [later], nodup⟩
      · ext version
        simp only [List.mem_toFinset, List.mem_cons, later, Finset.mem_filter, Finset.mem_insert]
        grind

/-- A block converts its changelog once, with the jar for its version, at its end. -/
theorem converting_conversions
    (converting : Converting tools cwd settings earlier changelog now calls (.ok block) after) :
    (calls.filter isConversion).map Call.exchange = [conversionOf settings block] := by
  cases converting with
  | @converted calls found resolved more supplied after resolving supplying asked =>
    have listed : calls.filter isConversion = [] := by
      cases resolving <;> simp [isConversion]
    have fetched : more.filter isConversion = [] := by
      cases supplying <;> simp [isConversion]
    rw [List.filter_append, List.filter_append, listed, fetched]
    rfl

theorem blocks_conversions
    (course : Blocks tools cwd settings earlier changelogs now calls blocks failure? after)
    (through : failure? = none) :
    (calls.filter isConversion).map Call.exchange = blocks.map (conversionOf settings) := by
  induction course with
  | done => rfl
  | failed => cases through
  | converted converting _ ih =>
    rw [List.filter_append, List.map_append, converting_conversions converting, ih through]
    rfl

/-- There is an address for every call that asks for a download, and only for these. -/
theorem length_addresses (calls : List (Call σ)) :
    (calls.filterMap address?).length = calls.countP isDownload := by
  rw [List.length_filterMap_eq_countP]
  congr 1
  funext ⟨_, exchange, _⟩
  cases exchange <;> rfl

variable {world final : World σ} {summary : Summary}

/-- What a run that went through reports are its blocks and its calls. It converts
what was discovered, each changelog once and in that order; it has listed each
manifest once; and it has made as many downloads as it says. If calls keep the
jars, a download is for a version whose jar was missing when the run began, and
no address is asked for twice. -/
theorem finished_run_accounts
    (finished : (run tools settings).perform world = (.ok summary, final)) :
    ∃ calls guarded rest blocks,
      Accounts tools world final calls ∧
      calls = ⟨momentOf world, .workingTree settings.root (.ok true), guarded⟩ :: rest ∧
      (Discovery.changelogs (guarded.view world.cwd) settings.root).1 = .ok summary.converted ∧
      Blocks tools world.cwd settings [] summary.converted guarded rest blocks none
        (momentOf final) ∧
      blocks.map Block.changelog = summary.converted ∧
      (calls.filter isConversion).map Call.exchange = blocks.map (conversionOf settings) ∧
      summary.manifests = calls.countP isListing ∧
      summary.manifests = (manifestsOf blocks).card ∧
      summary.downloads = calls.countP isDownload ∧
      ((∀ call ∈ calls, Keeps world.cwd settings (versionsOf blocks) call) →
        (calls.filterMap address?).Nodup ∧
        summary.downloads = ((versionsOf blocks).filter fun version =>
          isThere world.cwd settings (momentOf world) version = false).card) := by
  obtain ⟨calls, outcome, after, course⟩ :=
    course_total tools world.cwd settings (momentOf world)
  obtain ⟨final', performed, account, rfl⟩ := run_performs course world rfl rfl
  obtain ⟨rfl, rfl⟩ := Prod.mk.inj (finished.symm.trans performed)
  cases course with
  | @finished guarded changelogs calls blocks after asked discovered course =>
    have listings := blocks_listings course rfl
    simp only [manifestsOf, List.map_nil, List.toFinset_nil, Finset.sdiff_empty] at listings
    refine ⟨_, guarded, calls, blocks, account, rfl, discovered, course, blocks_changelogs course rfl,
      ?_, ?_, listings, ?_, fun keep => ?_⟩
    · simpa [isConversion] using blocks_conversions course rfl
    · simp [isListing]
    · simp [isDownload]
    · obtain ⟨guard, others⟩ := List.forall_mem_cons.mp keep
      obtain ⟨fetched, nodup, addresses, missing⟩ :=
        blocks_addresses course rfl others (Finset.Subset.refl _)
      have start : (versionsOf blocks).filter (fun version =>
            isThere world.cwd settings guarded version = false) =
          (versionsOf blocks).filter fun version =>
            isThere world.cwd settings (momentOf world) version = false := by
        refine Finset.filter_congr fun version used => ?_
        have unchanged := guard version used
        simp only [fetchesTo, Bool.or_false] at unchanged
        rw [unchanged]
      refine ⟨?_, ?_⟩
      · rw [List.filterMap_cons_none rfl, addresses]
        exact nodup.map (jar_url_injective settings)
      · rw [← length_addresses, addresses, List.length_map, ← List.toFinset_card_of_nodup nodup,
          missing, start]

theorem first_isName : isName (Bytes.ofString "a.xml") = true := by
  decide

/-- A directory with a manifest and two changelogs, and in it another one with a manifest and
one changelog. -/
def smallProject : Node :=
  .directory programMode
    (.cons ⟨Bytes.ofString "a.xml", first_isName⟩ (.file 0)
    (.cons ⟨Bytes.ofString "b.xml", by decide⟩ (.file 0)
    (.cons manifestName (.file 1)
    (.cons ⟨Bytes.ofString "q", by decide⟩ (.directory programMode
      (.cons ⟨Bytes.ofString "c.xml", by decide⟩ (.file 0)
      (.cons manifestName (.file 1) .nil))) .nil))))

/-- Where it stands. -/
def smallName : Name :=
  ⟨Bytes.ofString "p", by decide⟩

/-- The disk of a small run. -/
def smallDisk : Disk where
  top := .cons smallName smallProject .nil
  files := #[⟨.bytes (Bytes.ofString "databaseChangeLog"), plainMode, 0⟩, ⟨.bytes [], plainMode, 0⟩]
  clock := 0
  tidy := rfl

/-- The disk once the jar has been fetched. -/
def stockedDisk : Disk :=
  smallDisk.create [⟨Bytes.ofString "liquify-4.jar", by decide⟩] (.bytes []) plainMode

/-- What every project of the small run lists. -/
def smallListing : String := "org.liquibase:liquibase-core:jar:4"

/-- Collaborators that are content with everything. A download leaves the jar behind. -/
def smallTools : Toolchain Unit where
  workingTree _ view _ := ⟨.ok true, view.disk, (), []⟩
  dependencies _ view _ := ⟨.ok smallListing, view.disk, (), []⟩
  download _ _ _ _ := ⟨.ok .fetched, stockedDisk, (), []⟩
  convert _ _ view _ := ⟨.ok true, view.disk, (), []⟩

def smallSettings : Settings :=
  ⟨Path.ofString "/p", Path.ofString "/", "u"⟩

def smallWorld : World Unit :=
  ⟨smallDisk, [], (), []⟩

/-- The changelogs of the small run. -/
def smallChangelogs : List Path :=
  [Path.ofString "/p/a.xml", Path.ofString "/p/b.xml", Path.ofString "/p/q/c.xml"]

/-- The calls of the small run: the first changelog pays for the second one's listing and for
both others' jar. -/
def smallCalls : List (Call Unit) :=
  let start : Moment Unit := ⟨smallDisk, ()⟩
  let stocked : Moment Unit := ⟨stockedDisk, ()⟩
  let jar := jarFor smallSettings "4"
  [⟨start, .workingTree (Path.ofString "/p") (.ok true), start⟩,
    ⟨start, .dependencies (Path.ofString "/p") (.ok smallListing), start⟩,
    ⟨start, .download jar.url jar.path (.ok .fetched), stocked⟩,
    ⟨stocked, .convert jar.path (Path.ofString "/p/a.xml") (.ok true), stocked⟩,
    ⟨stocked, .convert jar.path (Path.ofString "/p/b.xml") (.ok true), stocked⟩,
    ⟨stocked, .dependencies (Path.ofString "/p/q") (.ok smallListing), stocked⟩,
    ⟨stocked, .convert jar.path (Path.ofString "/p/q/c.xml") (.ok true), stocked⟩]

theorem small_visits {view : View} (there : view.stat (Path.ofString "/p") = .ok smallProject) :
    Discovery.visits view (Path.ofString "/p") =
      [.entry (Path.ofString "/p"), .entry (Path.ofString "/p/a.xml"),
        .entry (Path.ofString "/p/b.xml"), .entry (Path.ofString "/p/pom.xml"),
        .entry (Path.ofString "/p/q"), .entry (Path.ofString "/p/q/c.xml"),
        .entry (Path.ofString "/p/q/pom.xml")] := by
  rw [visits_in_order there (by decide) (.refl _) (by decide)]
  simp only [Entries.toList, List.flatMap_cons, groupAt]
  rw [visitsBelow_in_order _ rfl (by decide) (.refl _) (by decide)]
  decide

theorem small_discovery :
    (Discovery.changelogs smallWorld.view smallSettings.root).1 = .ok smallChangelogs := by
  have there : smallWorld.view.stat (Path.ofString "/p") = .ok smallProject := rfl
  have visits := small_visits there
  simp only [Discovery.changelogs, Discovery.scan, smallSettings, visits]
  decide

theorem small_course : Course smallTools [] smallSettings ⟨smallDisk, ()⟩ smallCalls
    (.ok ⟨smallChangelogs, 2, 1⟩) ⟨stockedDisk, ()⟩ := by
  have first : manifestAt [] smallSettings.root (Path.ofString "/p/a.xml") ⟨smallDisk, ()⟩ =
      some (Path.ofString "/p/pom.xml") := by decide
  have second : manifestAt [] smallSettings.root (Path.ofString "/p/b.xml") ⟨stockedDisk, ()⟩ =
      some (Path.ofString "/p/pom.xml") := by decide
  have third : manifestAt [] smallSettings.root (Path.ofString "/p/q/c.xml") ⟨stockedDisk, ()⟩ =
      some (Path.ofString "/p/q/pom.xml") := by decide
  exact .finished ⟨rfl, rfl, rfl⟩ small_discovery
    (.converted
      (.converted (.listed first rfl (by decide) ⟨rfl, rfl, rfl⟩ (by decide))
        (.fetched (by decide) ⟨rfl, rfl, rfl⟩) ⟨rfl, rfl, rfl⟩)
      (.converted
        (.converted (.remembered second rfl) (.present (by decide)) ⟨rfl, rfl, rfl⟩)
        (.converted
          (.converted (.listed third rfl (by decide) ⟨rfl, rfl, rfl⟩ (by decide))
            (.present (by decide)) ⟨rfl, rfl, rfl⟩)
          .done)))

/-- The small run goes through: three changelogs of two projects have one version, and its jar is
fetched once. -/
theorem small_run_accounts :
    ∃ final blocks,
      (run smallTools smallSettings).perform smallWorld = (.ok ⟨smallChangelogs, 2, 1⟩, final) ∧
      Accounts smallTools smallWorld final smallCalls ∧
      2 = (manifestsOf blocks).card ∧
      versionsOf blocks = {"4"} ∧
      (∀ call ∈ smallCalls, Keeps [] smallSettings (versionsOf blocks) call) ∧
      (smallCalls.filterMap address?).Nodup ∧
      1 = ((versionsOf blocks).filter fun version =>
        isThere [] smallSettings ⟨smallDisk, ()⟩ version = false).card := by
  obtain ⟨final, performed, account, -⟩ := run_performs small_course smallWorld rfl rfl
  obtain ⟨calls, guarded, rest, blocks, account', -, -, -, changelogs, conversions, -, manifests, -, fetches⟩ :=
    finished_run_accounts performed
  obtain rfl := account.unique account'
  have versions : versionsOf blocks = {"4"} := by
    have used (block : Block) (member : block ∈ blocks) : block.version = "4" := by
      have asked : conversionOf smallSettings block ∈ (smallCalls.filter isConversion).map Call.exchange :=
        conversions ▸ List.mem_map_of_mem member
      obtain ⟨call, made, same⟩ := List.mem_map.mp asked
      have jars : ∀ call ∈ smallCalls.filter isConversion, ∃ changelog,
          call.exchange = .convert (jarFor smallSettings "4").path changelog (.ok true) := by
        simp [smallCalls, isConversion]
      obtain ⟨changelog, exchange⟩ := jars call made
      obtain ⟨paths, -, -⟩ := Exchange.convert.inj (exchange.symm.trans same)
      exact (jar_path_inj.mp paths).symm
    have filled : blocks ≠ [] := by
      rintro rfl
      cases changelogs
    rw [versionsOf, List.eq_replicate_of_mem (List.forall_mem_map.mpr used),
      List.toFinset_replicate_of_ne_zero (by simpa using filled)]
  have kept : ∀ call ∈ smallCalls, isThere [] smallSettings call.after "4" =
      (isThere [] smallSettings call.before "4" ||
        fetchesTo (jarFor smallSettings "4").path call) := by decide
  have keep : ∀ call ∈ smallCalls, Keeps [] smallSettings (versionsOf blocks) call := by
    intro call made version used
    rw [versions, Finset.mem_singleton] at used
    exact used ▸ kept call made
  exact ⟨final, blocks, performed, account, manifests, versions, keep, fetches keep⟩

end ChangelogSql.RunAccounting
