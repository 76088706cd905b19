import ChangelogSql.Proofs.DueBlocks
import ChangelogSql.Proofs.SparedSources

/-! A run over a tree that has been converted before. The first run has seen to it
that every jar it needed is there, so if neither run does harm to the sources, the
second makes the calls of the first over again, all but the downloads. What counts as
harm is told by what paths lead to: a file that is reached by a link has changed if
what the link leads to has. -/
namespace ChangelogSql.SecondRun
open Files Conversion CallAccounts Discovery PathDescent DiscoveryExactness
open ResolutionMemo RunCourse RunAccounting DueBlocks TidyTree TreeWalk WrittenFiles SparedSources

variable {σ τ : Type}

/-- If the same was asked in one of these calls, it is answered as it was then. -/
def AnsweredAsIn (calls : List (Call σ)) (again : Call τ) : Prop :=
  ∀ call ∈ calls, call.request = again.request → call.exchange = again.exchange

/-- What was asked and answered in some calls, without the downloads. -/
def undownloaded (calls : List (Call σ)) : List Exchange :=
  (calls.filter fun call => !isDownload call).map Call.exchange

section Lockstep
variable {tools : Toolchain σ} {tools' : Toolchain τ} {cwd : Location} {settings : Settings}
variable {known : Path → Option String} {earlier blocks blocks' : List Block} {block : Block}
variable {root changelog : Path} {changelogs : List Path} {found : Resolution}
variable {now after : Moment σ} {now' after' : Moment τ} {start : View}
variable {calls : List (Call σ)} {calls' : List (Call τ)}

/-- Calls that each spare the sources and the jars do so together. -/
theorem chain_spares (chain : Chain tools cwd now calls after)
    (spared : ∀ call ∈ calls, Spares settings start (call.before.view cwd) (call.after.view cwd)) :
    Spares settings start (now.view cwd) (after.view cwd) := by
  induction chain with
  | none => exact .refl _ _ _
  | next answered more ih =>
    obtain ⟨first, others⟩ := List.forall_mem_cons.mp spared
    exact first.trans (ih others)

theorem undownloaded_append (calls more : List (Call σ)) :
    undownloaded (calls ++ more) = undownloaded calls ++ undownloaded more := by
  simp [undownloaded]

/-- A changelog is resolved once more as it was before. -/
theorem resolving_again {outcome : Except Failure Resolution}
    (resolving : Resolving tools cwd root known changelog now calls (.ok found) after)
    (again : Resolving tools' cwd root known changelog now' calls' outcome after')
    (same : manifestAt cwd root changelog now' = manifestAt cwd root changelog now)
    (alike : ∀ call ∈ calls', AnsweredAsIn calls call) :
    outcome = .ok found ∧ calls'.map Call.exchange = undownloaded calls := by
  cases resolving with
  | remembered nearest met =>
    rw [nearest] at same
    cases again with
    | orphan nowhere => cases nowhere.symm.trans same
    | remembered nearest' met' =>
      cases nearest'.symm.trans same
      cases met.symm.trans met'
      exact ⟨rfl, rfl⟩
    | unlisted nearest' new | unversioned nearest' new | listed nearest' new =>
      cases nearest'.symm.trans same
      cases met.symm.trans new
  | listed nearest new directory asked read =>
    rw [nearest] at same
    cases again with
    | orphan nowhere => cases nowhere.symm.trans same
    | remembered nearest' met =>
      cases nearest'.symm.trans same
      cases new.symm.trans met
    | unlisted nearest' new' directory' asked' =>
      cases nearest'.symm.trans same
      cases directory.symm.trans directory'
      cases alike _ (List.mem_singleton_self _) _ (List.mem_singleton_self _) rfl
    | unversioned nearest' new' directory' asked' silent =>
      cases nearest'.symm.trans same
      cases directory.symm.trans directory'
      cases alike _ (List.mem_singleton_self _) _ (List.mem_singleton_self _) rfl
      cases read.symm.trans silent
    | listed nearest' new' directory' asked' read' =>
      cases nearest'.symm.trans same
      cases directory.symm.trans directory'
      cases alike _ (List.mem_singleton_self _) _ (List.mem_singleton_self _) rfl
      cases read.symm.trans read'
      exact ⟨rfl, rfl⟩

/-- A jar that is there is supplied without a call. -/
theorem supplying_there {jar : Jar} {outcome : Except Failure Unit}
    (supplying : Supplying tools cwd jar now calls outcome after)
    (there : (now.view cwd).isFile jar.path = true) : outcome = .ok () ∧ calls = [] ∧ after = now := by
  cases supplying with
  | present => exact ⟨rfl, rfl, rfl⟩
  | fetched missing | unfetched missing | refused missing =>
    rw [there] at missing
    cases missing

/-- Supplying a jar makes no calls but downloads. -/
theorem supplying_undownloaded {jar : Jar} {outcome : Except Failure Unit}
    (supplying : Supplying tools cwd jar now calls outcome after) : undownloaded calls = [] := by
  cases supplying <;> simp [undownloaded, isDownload]

theorem resolving_undownloading {outcome : Except Failure Resolution}
    (resolving : Resolving tools cwd root known changelog now calls outcome after) :
    ∀ call ∈ calls, isDownload call = false := by
  simpa using List.countP_eq_zero.mp (resolving_downloads resolving)

theorem AnsweredAsIn.left {call : Call τ} {more : List (Call σ)} (as : AnsweredAsIn (calls ++ more) call) :
    AnsweredAsIn calls call :=
  fun first made => as first (List.mem_append_left _ made)

theorem AnsweredAsIn.right {call : Call τ} {more : List (Call σ)} (as : AnsweredAsIn (calls ++ more) call) :
    AnsweredAsIn more call :=
  fun first made => as first (List.mem_append_right _ made)

/-- A changelog that is resolved once more finds its jar there, if it was there when
the changelog was met. -/
theorem supplied_again {found' : Resolution} {resolved : Moment σ} {resolved' supplied' : Moment τ}
    {more : List (Call σ)} {more' rest : List (Call τ)} {outcome : Except Failure Unit}
    (resolving : Resolving tools cwd settings.root known changelog now calls (.ok found) resolved)
    (again : Resolving tools' cwd settings.root known changelog now' calls' (.ok found') resolved')
    (supplying : Supplying tools' cwd (jarFor settings found'.version) resolved' more' outcome supplied')
    (same : manifestAt cwd settings.root changelog now' = manifestAt cwd settings.root changelog now)
    (there : isThere cwd settings now' found.version = true)
    (spared : ∀ call ∈ calls' ++ rest, isDownload call = false →
      Spares settings start (call.before.view cwd) (call.after.view cwd))
    (alike : ∀ call ∈ calls' ++ rest, isDownload call = false → AnsweredAsIn (calls ++ more) call) :
    found' = found ∧ outcome = .ok () ∧ more' = [] ∧ calls'.map Call.exchange = undownloaded calls := by
  have other := resolving_undownloading again
  obtain ⟨equal, exchanges⟩ := resolving_again resolving again same fun call made =>
    (alike call (List.mem_append_left _ made) (other call made)).left
  cases equal
  have kept := chain_spares (resolving_chain again) fun call made =>
    spared call (List.mem_append_left _ made) (other call made)
  obtain ⟨went, none, -⟩ := supplying_there supplying (kept.jars _ there)
  exact ⟨rfl, went, none, exchanges⟩

/-- A changelog that was converted is converted once more, without a download, if its
jar is there by then. -/
theorem converting_again {outcome : Except Failure Block}
    (converting : Converting tools cwd settings earlier changelog now calls (.ok block) after)
    (again : Converting tools' cwd settings earlier changelog now' calls' outcome after')
    (same : manifestAt cwd settings.root changelog now' = manifestAt cwd settings.root changelog now)
    (there : isThere cwd settings now' block.version = true)
    (spared : ∀ call ∈ calls', isDownload call = false →
      Spares settings start (call.before.view cwd) (call.after.view cwd))
    (alike : ∀ call ∈ calls', isDownload call = false → AnsweredAsIn calls call) :
    outcome = .ok block ∧ calls'.map Call.exchange = undownloaded calls := by
  cases converting with
  | @converted calls found resolved more supplied after resolving supplying asked =>
    cases again with
    | unresolved resolving' =>
      have other := resolving_undownloading resolving'
      cases (resolving_again resolving resolving' same fun call made =>
        (alike call made (other call made)).left).1
    | unsupplied resolving' supplying' =>
      obtain ⟨-, never, -, -⟩ := supplied_again resolving resolving' supplying' same there spared alike
      cases never
    | refused resolving' supplying' asked' =>
      obtain ⟨rfl, -, rfl, -⟩ := supplied_again resolving resolving' supplying' same there spared alike
      cases (alike _ (List.mem_append_right _ (List.mem_singleton_self _)) rfl).right.right _
        (List.mem_singleton_self _) rfl
    | unconverted resolving' supplying' asked' =>
      obtain ⟨rfl, -, rfl, -⟩ := supplied_again resolving resolving' supplying' same there spared alike
      cases (alike _ (List.mem_append_right _ (List.mem_singleton_self _)) rfl).right.right _
        (List.mem_singleton_self _) rfl
    | converted resolving' supplying' asked' =>
      obtain ⟨rfl, -, rfl, exchanges⟩ :=
        supplied_again resolving resolving' supplying' same there spared alike
      refine ⟨rfl, ?_⟩
      rw [List.map_append, exchanges, undownloaded_append, undownloaded_append,
        supplying_undownloaded supplying]
      rfl

/-- Exchanges that leave out the downloads are those of calls that are none. -/
theorem undownloading_of_exchanges (exchanges : calls'.map Call.exchange = undownloaded calls) :
    ∀ call ∈ calls', isDownload call = false := by
  intro call made
  have asked : call.exchange ∈ undownloaded calls := exchanges ▸ List.mem_map_of_mem made
  obtain ⟨first, kept, same⟩ := List.mem_map.mp asked
  obtain ⟨-, other⟩ := List.mem_filter.mp kept
  simpa only [isDownload, ← same, Bool.not_eq_true'] using other

theorem blocks_chain {failure? : Option Failure}
    (course : Blocks tools cwd settings earlier changelogs now calls blocks failure? after) :
    Chain tools cwd now calls after := by
  induction course with
  | done => exact .none
  | failed converting => exact converting_chain converting
  | converted converting _ ih => exact (converting_chain converting).append ih

/-- When a changelog has been converted its jar is there. -/
theorem converting_stocked
    (converting : Converting tools cwd settings earlier changelog now calls (.ok block) after)
    (harmless : ∀ call ∈ calls, Harmless cwd settings start call) :
    isThere cwd settings after block.version = true := by
  cases converting with
  | @converted calls found resolved more supplied after resolving supplying asked =>
    simp only [List.forall_mem_append] at harmless
    obtain ⟨-, fetching, converted⟩ := harmless
    have there : (supplied.view cwd).isFile (jarFor settings found.version).path = true := by
      cases supplying with
      | present there => exact there
      | fetched => exact (fetching _ (List.mem_singleton_self _)).fetched _ (by simp [fetchesTo])
    exact (converted _ (List.mem_singleton_self _)).spares.jars _ there

/-- After a run that went through, every jar it needed is there. -/
theorem blocks_stocked {failure? : Option Failure}
    (course : Blocks tools cwd settings earlier changelogs now calls blocks failure? after)
    (harmless : ∀ call ∈ calls, Harmless cwd settings start call) :
    ∀ block ∈ blocks, isThere cwd settings after block.version = true := by
  induction course with
  | done => simp
  | failed => simp
  | converted converting others ih =>
    obtain ⟨first, later⟩ := List.forall_mem_append.mp harmless
    have kept := chain_spares (blocks_chain others) fun call made => (later call made).spares
    exact List.forall_mem_cons.mpr ⟨kept.jars _ (converting_stocked converting first), ih later⟩

/-- Changelogs that were converted one after the other are converted once more in the
same way, block by block, if their jars are there and neither pass does harm. -/
theorem blocks_again {met : List Path} {failure? failure?' : Option Failure}
    (course : Blocks tools cwd settings earlier changelogs now calls blocks failure? after)
    (through : failure? = none)
    (again : Blocks tools' cwd settings earlier changelogs now' calls' blocks' failure?' after')
    (collects : (Discovery.changelogs start settings.root).1 = .ok met)
    (among : ∀ changelog ∈ changelogs, changelog ∈ met)
    (same : SameSources start settings.root (now.view cwd) (now'.view cwd))
    (there : ∀ block ∈ blocks, isThere cwd settings now' block.version = true)
    (harmless : ∀ call ∈ calls, Harmless cwd settings start call)
    (spared : ∀ call ∈ calls', isDownload call = false →
      Spares settings start (call.before.view cwd) (call.after.view cwd))
    (alike : ∀ call ∈ calls', isDownload call = false → AnsweredAsIn calls call) :
    failure?' = none ∧ calls'.map Call.exchange = undownloaded calls := by
  induction course generalizing now' calls' blocks' failure?' after' with
  | done =>
    cases again
    exact ⟨rfl, rfl⟩
  | failed => cases through
  | @converted earlier changelog now calls block middle rest more blocks failure? after
      converting others ih =>
    obtain ⟨here, later⟩ := List.forall_mem_cons.mp among
    obtain ⟨stocked, stocked'⟩ := List.forall_mem_cons.mp there
    obtain ⟨mine, theirs⟩ := List.forall_mem_append.mp harmless
    have nearest := manifest_same same collects here
    cases again with
    | failed converting' =>
      obtain ⟨never, -⟩ := converting_again converting converting' nearest stocked spared
        fun call made other => (alike call made other).left
      cases never
    | converted converting' others' =>
      obtain ⟨went, exchanges⟩ := converting_again converting converting' nearest stocked
        (fun call made => spared call (List.mem_append_left _ made))
        fun call made other => (alike call (List.mem_append_left _ made) other).left
      cases went
      have other := undownloading_of_exchanges exchanges
      have kept := chain_spares (converting_chain converting) fun call made => (mine call made).spares
      have kept' := chain_spares (converting_chain converting') fun call made =>
        spared call (List.mem_append_left _ made) (other call made)
      obtain ⟨through', exchanges'⟩ := ih through others' later
        ((kept.sources.symm.trans same).trans kept'.sources)
        (fun block member => kept'.jars _ (stocked' block member)) theirs
        (fun call made => spared call (List.mem_append_right _ made))
        fun call made other => (alike call (List.mem_append_right _ made) other).right
      exact ⟨through', by rw [List.map_append, exchanges, exchanges', undownloaded_append]⟩

end Lockstep

/-- An exchange in which dependencies are listed. -/
def lists : Exchange → Bool
  | .dependencies .. => true
  | _ => false

/-- An exchange in which a changelog is converted. -/
def converts : Exchange → Bool
  | .convert .. => true
  | _ => false

/-- Leaving out the downloads leaves all listings. -/
theorem countP_listings (calls : List (Call σ)) :
    (undownloaded calls).countP lists = calls.countP isListing := by
  rw [undownloaded, List.countP_map, List.countP_filter]
  refine List.countP_congr fun call _ => ?_
  obtain ⟨_, exchange, _⟩ := call
  cases exchange <;> simp [lists, isListing, isDownload]

/-- It leaves all conversions, too. -/
theorem filter_conversions (calls : List (Call σ)) :
    (undownloaded calls).filter converts = (calls.filter isConversion).map Call.exchange := by
  rw [undownloaded, List.filter_map, List.filter_filter]
  congr 1
  refine List.filter_congr fun call _ => ?_
  obtain ⟨_, exchange, _⟩ := call
  cases exchange <;> simp [converts, isConversion, isDownload]

/-- Calls with the exchanges of others, but for the downloads, are as many listings and
the same conversions, and no download is among them. -/
theorem without_downloads {calls : List (Call σ)} {calls' : List (Call τ)}
    (exchanges : calls'.map Call.exchange = undownloaded calls) :
    calls'.countP isListing = calls.countP isListing ∧
      (calls'.filter isConversion).map Call.exchange = (calls.filter isConversion).map Call.exchange ∧
      ∀ call ∈ calls', isDownload call = false := by
  have other := undownloading_of_exchanges exchanges
  have whole : undownloaded calls' = undownloaded calls := by
    rw [← exchanges, undownloaded, List.filter_eq_self.mpr (by simpa using other)]
  refine ⟨?_, ?_, other⟩
  · rw [← countP_listings, whole, countP_listings]
  · rw [← filter_conversions, whole, filter_conversions]

/-- Converting a tree a second time makes the calls of the first run over again, all
but the downloads, and comes to the same changelogs and as many manifests. The first
run may write what files it likes as long as its calls do no harm to the sources that
the tree has at the start, and what it fetches is there; the second needs the old
answers, but for downloads, which it could not even get. -/
theorem second_run_repeats (tools : Toolchain σ) (tools' : Toolchain τ) (settings : Settings)
    (world final : World σ) (world' : World τ) (summary : Summary)
    (finished : (run tools settings).perform world = (.ok summary, final))
    (place : world'.cwd = world.cwd) :
    ∃ calls calls',
      Accounts tools world final calls ∧
      Accounts tools' world' ((run tools' settings).perform world').2 calls' ∧
      ((∀ call ∈ calls, Harmless world.cwd settings world.view call) →
        Gentle settings world.view final.view world'.view →
        (∀ call ∈ calls', isDownload call = false →
          Gentle settings world.view (call.before.view world.cwd) (call.after.view world.cwd)) →
        (∀ call ∈ calls', isDownload call = false → AnsweredAsIn calls call) →
          ((run tools' settings).perform world').1 = .ok ⟨summary.converted, summary.manifests, 0⟩ ∧
          calls'.map Call.exchange = undownloaded calls ∧
          (calls'.filter isConversion).map Call.exchange =
            (calls.filter isConversion).map Call.exchange ∧
          ∀ call ∈ calls', isDownload call = false) := by
  obtain ⟨calls, outcome, after, course⟩ :=
    course_total tools world.cwd settings (momentOf world)
  obtain ⟨calls', outcome', after', again⟩ :=
    course_total tools' world.cwd settings (momentOf world')
  obtain ⟨final', performed, account, rfl⟩ := run_performs course world rfl rfl
  obtain ⟨final'', performed', account', rfl⟩ := run_performs again world' rfl place
  obtain ⟨rfl, rfl⟩ := Prod.mk.inj (finished.symm.trans performed)
  rw [performed']
  refine ⟨calls, calls', account, account', fun harmless between gentle alike => ?_⟩
  have spared : ∀ call ∈ calls', isDownload call = false →
      Spares settings world.view (call.before.view world.cwd) (call.after.view world.cwd) :=
    fun call made other => (gentle call made other).spares
  cases course with
  | @finished guarded changelogs calls blocks _ asked discovered course =>
    obtain ⟨guard, harmless⟩ := List.forall_mem_cons.mp harmless
    have entered : Spares settings world.view world.view (guarded.view world.cwd) := guard.spares
    have kept := chain_spares (blocks_chain course) fun call made => (harmless call made).spares
    have between : Spares settings world.view ⟨final.disk, world.cwd⟩ ⟨world'.disk, world.cwd⟩ := by
      simpa only [World.view, account.place, place] using between.spares
    have collects : (Discovery.changelogs world.view settings.root).1 = .ok changelogs :=
      (changelogs_same entered.sources).symm.trans discovered
    have rediscovered {guarded' : Moment τ}
        (spares : Spares settings world.view ((momentOf world').view world.cwd) (guarded'.view world.cwd)) :
        (Discovery.changelogs (guarded'.view world.cwd) settings.root).1 = .ok changelogs :=
      (changelogs_same (entered.trans (kept.trans (between.trans spares))).sources).trans collects
    have reconverted {guarded' after' : Moment τ} {calls' : List (Call τ)} {blocks' : List Block}
        {failure? : Option Failure}
        (again : Blocks tools' world.cwd settings [] changelogs guarded' calls' blocks' failure? after')
        (spared : ∀ call ∈ ⟨momentOf world', .workingTree settings.root (.ok true), guarded'⟩ :: calls',
          isDownload call = false →
            Spares settings world.view (call.before.view world.cwd) (call.after.view world.cwd))
        (alike : ∀ call ∈ calls', isDownload call = false → AnsweredAsIn
          (⟨momentOf world, .workingTree settings.root (.ok true), guarded⟩ :: calls) call) :
        failure? = none ∧ calls'.map Call.exchange = undownloaded calls := by
      obtain ⟨guard', spared⟩ := List.forall_mem_cons.mp spared
      have since := between.trans (guard' rfl)
      exact blocks_again course rfl again collects (fun _ => id) (kept.trans since).sources
        (fun block member => since.jars _ (blocks_stocked course harmless block member)) harmless spared
        fun call made other first asked => alike call made other first (List.mem_cons_of_mem _ asked)
    cases again with
    | refused | outside => cases alike _ (List.mem_singleton_self _) rfl _ List.mem_cons_self rfl
    | undiscovered _ discovered' =>
      cases (rediscovered (spared _ (List.mem_singleton_self _) rfl)).symm.trans discovered'
    | aborted _ discovered' course' =>
      cases (rediscovered (spared _ List.mem_cons_self rfl)).symm.trans discovered'
      cases (reconverted course' spared fun call made => alike call (List.mem_cons_of_mem _ made)).1
    | @finished guarded' _ calls' _ _ _ discovered' course' =>
      cases (rediscovered (spared _ List.mem_cons_self rfl)).symm.trans discovered'
      obtain ⟨-, exchanges⟩ :=
        reconverted course' spared fun call made => alike call (List.mem_cons_of_mem _ made)
      obtain ⟨listings, -, other⟩ := without_downloads exchanges
      have whole : (⟨momentOf world', .workingTree settings.root (.ok true), guarded'⟩ :: calls').map
          Call.exchange = undownloaded
            (⟨momentOf world, .workingTree settings.root (.ok true), guarded⟩ :: calls) := by
        rw [List.map_cons, exchanges]
        rfl
      have none : calls'.countP isDownload = 0 := List.countP_eq_zero.mpr (by simpa using other)
      refine ⟨?_, whole, (without_downloads whole).2⟩
      rw [listings, none]

/-- Collaborators that make a new file where they are asked to. -/
def savingTools : Toolchain Unit where
  workingTree := smallTools.workingTree
  dependencies := smallTools.dependencies
  download _ path view _ := ⟨.ok .fetched, writtenAt view path [], (), []⟩
  convert _ changelog view _ :=
    ⟨.ok true, writtenAt view (Output.pathFor changelog) (Bytes.ofString "-- databaseChangeLog"), (), []⟩

/-- The same without a network. -/
def offlineTools : Toolchain Unit where
  workingTree := savingTools.workingTree
  dependencies := savingTools.dependencies
  download _ _ view _ := ⟨.ok (.failed "offline"), view.disk, (), []⟩
  convert := savingTools.convert

/-- The jar of the small settings. -/
def smallJar : Jar := jarFor smallSettings "4"

/-- A disk once the jar has been fetched. -/
def fetched (disk : Disk) : Disk :=
  writtenAt ⟨disk, []⟩ smallJar.path []

/-- A disk once a changelog has been converted. -/
def saved (disk : Disk) (changelog : Path) : Disk :=
  writtenAt ⟨disk, []⟩ (Output.pathFor changelog) (Bytes.ofString "-- databaseChangeLog")

/-- A disk once the first changelog of the small run has been converted, the first two, and all. -/
def savedOne (disk : Disk) : Disk := saved disk (Path.ofString "/p/a.xml")

def savedTwo (disk : Disk) : Disk := saved (savedOne disk) (Path.ofString "/p/b.xml")

def savedAll (disk : Disk) : Disk := saved (savedTwo disk) (Path.ofString "/p/q/c.xml")

/-- The calls that these collaborators answer, by the disk they are asked on. -/
def guarding (disk : Disk) : Call Unit :=
  ⟨⟨disk, ()⟩, .workingTree (Path.ofString "/p") (.ok true), ⟨disk, ()⟩⟩

def listing (disk : Disk) (project : Path) : Call Unit :=
  ⟨⟨disk, ()⟩, .dependencies project (.ok smallListing), ⟨disk, ()⟩⟩

def fetching (disk : Disk) : Call Unit :=
  ⟨⟨disk, ()⟩, .download smallJar.url smallJar.path (.ok .fetched), ⟨fetched disk, ()⟩⟩

def saving (disk : Disk) (changelog : Path) : Call Unit :=
  ⟨⟨disk, ()⟩, .convert smallJar.path changelog (.ok true), ⟨saved disk changelog, ()⟩⟩

/-- The calls for the changelogs of the small run, once their jar is there. -/
def conversions (disk : Disk) : List (Call Unit) :=
  [saving disk (Path.ofString "/p/a.xml"), saving (savedOne disk) (Path.ofString "/p/b.xml"),
    listing (savedTwo disk) (Path.ofString "/p/q"), saving (savedTwo disk) (Path.ofString "/p/q/c.xml")]

/-- The calls of the first run and of the second. -/
def savingCalls : List (Call Unit) :=
  [guarding smallDisk, listing smallDisk (Path.ofString "/p"), fetching smallDisk] ++
    conversions (fetched smallDisk)

/-- The disk that the first run leaves. -/
def savedDisk : Disk :=
  savedAll (fetched smallDisk)

def offlineCalls : List (Call Unit) :=
  [guarding savedDisk, listing savedDisk (Path.ofString "/p")] ++ conversions savedDisk

theorem small_root : smallSettings.root = Location.path [smallName] := by
  decide

theorem guarding_harmless (disk : Disk) : Harmless [] smallSettings smallWorld.view (guarding disk) :=
  ⟨.refl _ _ _, fun _ never => by cases never⟩

theorem listing_harmless (disk : Disk) (project : Path) :
    Harmless [] smallSettings smallWorld.view (listing disk project) :=
  ⟨.refl _ _ _, fun _ never => by cases never⟩

theorem saving_harmless {disk : Disk} {changelog : Path}
    (clear : isClear ⟨disk, []⟩ (Output.pathFor changelog) = true) :
    Harmless [] smallSettings smallWorld.view (saving disk changelog) :=
  ⟨writtenAt_gentle small_root clear, fun _ never => by cases never⟩

theorem fetching_harmless : Harmless [] smallSettings smallWorld.view (fetching smallDisk) := by
  have clear : isClear ⟨smallDisk, []⟩ smallJar.path = true := by decide +kernel
  refine ⟨writtenAt_gentle small_root clear, fun path asked => ?_⟩
  obtain rfl : _ = path := of_decide_eq_true asked
  decide +kernel

/-- The results of the small run can be written, one after the other. -/
def areClear (disk : Disk) : Bool :=
  isClear ⟨disk, []⟩ (Output.pathFor (Path.ofString "/p/a.xml")) &&
    isClear ⟨savedOne disk, []⟩ (Output.pathFor (Path.ofString "/p/b.xml")) &&
    isClear ⟨savedTwo disk, []⟩ (Output.pathFor (Path.ofString "/p/q/c.xml"))

theorem conversions_harmless {disk : Disk} (clear : areClear disk = true) :
    (∀ call ∈ conversions disk, Harmless [] smallSettings smallWorld.view call) ∧
      Spares smallSettings smallWorld.view ⟨disk, []⟩ ⟨savedAll disk, []⟩ := by
  simp only [areClear, Bool.and_eq_true] at clear
  obtain ⟨⟨first, second⟩, third⟩ := clear
  have one := saving_harmless first
  have two := saving_harmless second
  have three := saving_harmless third
  refine ⟨fun call made => ?_, one.spares.trans (two.spares.trans three.spares)⟩
  simp only [conversions, List.mem_cons, List.not_mem_nil, or_false] at made
  rcases made with rfl | rfl | rfl | rfl
  · exact one
  · exact two
  · exact listing_harmless _ _
  · exact three

theorem fetched_clear : areClear (fetched smallDisk) = true := by decide +kernel

theorem saved_clear : areClear savedDisk = true := by decide +kernel

theorem savingCalls_harmless : ∀ call ∈ savingCalls, Harmless [] smallSettings smallWorld.view call := by
  refine List.forall_mem_append.mpr ⟨fun call made => ?_, (conversions_harmless fetched_clear).1⟩
  simp only [List.mem_cons, List.not_mem_nil, or_false] at made
  rcases made with rfl | rfl | rfl
  · exact guarding_harmless _
  · exact listing_harmless _ _
  · exact fetching_harmless

theorem offlineCalls_harmless : ∀ call ∈ offlineCalls, Harmless [] smallSettings smallWorld.view call := by
  refine List.forall_mem_append.mpr ⟨fun call made => ?_, (conversions_harmless saved_clear).1⟩
  simp only [List.mem_cons, List.not_mem_nil, or_false] at made
  rcases made with rfl | rfl
  · exact guarding_harmless _
  · exact listing_harmless _ _

/-- What the later two changelogs meet: their manifests, and their jar. -/
def isReady (disk : Disk) : Bool :=
  let one : Moment Unit := ⟨savedOne disk, ()⟩
  let two : Moment Unit := ⟨savedTwo disk, ()⟩
  manifestAt [] smallSettings.root (Path.ofString "/p/b.xml") one = some (Path.ofString "/p/pom.xml") &&
    manifestAt [] smallSettings.root (Path.ofString "/p/q/c.xml") two =
      some (Path.ofString "/p/q/pom.xml") &&
    isThere [] smallSettings one "4" && isThere [] smallSettings two "4"

theorem small_version : Version.inListing? smallListing = some "4" := by decide

section Courses
variable (tools : Toolchain Unit) {disk : Disk}

theorem saving_answered (converts : tools.convert = savingTools.convert) (disk : Disk) (changelog : Path) :
    Answered tools [] ⟨disk, ()⟩ (.convert smallJar.path changelog (.ok true)) ⟨saved disk changelog, ()⟩ := by
  rw [Answered, converts]
  exact ⟨rfl, rfl, rfl⟩

theorem listing_answered (lists : tools.dependencies = savingTools.dependencies) (disk : Disk) (project : Path) :
    Answered tools [] ⟨disk, ()⟩ (.dependencies project (.ok smallListing)) ⟨disk, ()⟩ := by
  rw [Answered, lists]
  exact ⟨rfl, rfl, rfl⟩

variable {changelog manifest project : Path} {earlier : List Block}

/-- A changelog is converted after its project has been listed. -/
theorem block_listed (lists : tools.dependencies = savingTools.dependencies)
    (converts : tools.convert = savingTools.convert)
    (nearest : manifestAt [] smallSettings.root changelog (⟨disk, ()⟩ : Moment Unit) = some manifest)
    (new : versionFrom earlier manifest = none) (above : manifest.parent? = some project)
    (there : isThere [] smallSettings (⟨disk, ()⟩ : Moment Unit) "4" = true) :
    Converting tools [] smallSettings earlier changelog ⟨disk, ()⟩
      [listing disk project, saving disk changelog] (.ok ⟨changelog, manifest, "4"⟩)
      ⟨saved disk changelog, ()⟩ :=
  .converted (.listed nearest new above (listing_answered tools lists disk project) small_version)
    (.present there) (saving_answered tools converts disk changelog)

/-- A changelog is converted with the version of an earlier one. -/
theorem block_remembered (converts : tools.convert = savingTools.convert)
    (nearest : manifestAt [] smallSettings.root changelog (⟨disk, ()⟩ : Moment Unit) = some manifest)
    (met : versionFrom earlier manifest = some "4")
    (there : isThere [] smallSettings (⟨disk, ()⟩ : Moment Unit) "4" = true) :
    Converting tools [] smallSettings earlier changelog ⟨disk, ()⟩ [saving disk changelog]
      (.ok ⟨changelog, manifest, "4"⟩) ⟨saved disk changelog, ()⟩ :=
  .converted (.remembered nearest met) (.present there) (saving_answered tools converts disk changelog)

/-- A changelog is converted after its project has been listed and its jar fetched. -/
theorem block_fetched
    (nearest : manifestAt [] smallSettings.root changelog (⟨disk, ()⟩ : Moment Unit) = some manifest)
    (new : versionFrom earlier manifest = none) (above : manifest.parent? = some project)
    (missing : isThere [] smallSettings (⟨disk, ()⟩ : Moment Unit) "4" = false) :
    Converting savingTools [] smallSettings earlier changelog ⟨disk, ()⟩
      [listing disk project, fetching disk, saving (fetched disk) changelog]
      (.ok ⟨changelog, manifest, "4"⟩) ⟨saved (fetched disk) changelog, ()⟩ := by
  have supplied : Answered savingTools [] ⟨disk, ()⟩
      (.download smallJar.url smallJar.path (.ok .fetched)) ⟨fetched disk, ()⟩ := ⟨rfl, rfl, rfl⟩
  exact .converted (.listed nearest new above (listing_answered savingTools rfl disk project) small_version)
    (.fetched missing supplied) (saving_answered savingTools rfl _ changelog)

/-- Once the first changelog has been converted, the others are. -/
theorem later_blocks (lists : tools.dependencies = savingTools.dependencies)
    (converts : tools.convert = savingTools.convert) (ready : isReady disk = true) :
    ∃ blocks, Blocks tools [] smallSettings
      [⟨Path.ofString "/p/a.xml", Path.ofString "/p/pom.xml", "4"⟩]
      [Path.ofString "/p/b.xml", Path.ofString "/p/q/c.xml"] ⟨savedOne disk, ()⟩
      (conversions disk).tail blocks none ⟨savedAll disk, ()⟩ := by
  simp only [isReady, Bool.and_eq_true, decide_eq_true_eq] at ready
  obtain ⟨⟨⟨second, third⟩, there⟩, there'⟩ := ready
  exact ⟨_, .converted (block_remembered tools converts second rfl there)
    (.converted (block_listed tools lists converts third rfl (by decide) there') .done)⟩

end Courses

theorem saving_course : Course savingTools [] smallSettings ⟨smallDisk, ()⟩ savingCalls
    (.ok ⟨smallChangelogs, 2, 1⟩) ⟨savedDisk, ()⟩ := by
  have ready : isReady (fetched smallDisk) = true := by decide +kernel
  obtain ⟨blocks, later⟩ := later_blocks savingTools rfl rfl ready
  have nearest : manifestAt [] smallSettings.root (Path.ofString "/p/a.xml") (⟨smallDisk, ()⟩ : Moment Unit) =
      some (Path.ofString "/p/pom.xml") := by decide
  have missing : isThere [] smallSettings (⟨smallDisk, ()⟩ : Moment Unit) "4" = false := by decide
  have first : Converting savingTools [] smallSettings [] (Path.ofString "/p/a.xml") ⟨smallDisk, ()⟩
      [listing smallDisk (Path.ofString "/p"), fetching smallDisk,
        saving (fetched smallDisk) (Path.ofString "/p/a.xml")]
      (.ok ⟨Path.ofString "/p/a.xml", Path.ofString "/p/pom.xml", "4"⟩)
      ⟨savedOne (fetched smallDisk), ()⟩ := block_fetched nearest rfl (by decide) missing
  have whole := Blocks.converted first later
  have same : savingCalls = guarding smallDisk :: ([listing smallDisk (Path.ofString "/p"), fetching smallDisk,
        saving (fetched smallDisk) (Path.ofString "/p/a.xml")] ++ (conversions (fetched smallDisk)).tail) := rfl
  rw [same]
  exact .finished ⟨rfl, rfl, rfl⟩ small_discovery whole

theorem saved_discovery :
    (Discovery.changelogs ⟨savedDisk, []⟩ smallSettings.root).1 = .ok smallChangelogs := by
  have kept : Spares smallSettings smallWorld.view smallWorld.view ⟨savedDisk, []⟩ :=
    fetching_harmless.spares.trans (conversions_harmless fetched_clear).2
  exact (changelogs_same kept.sources).trans small_discovery

theorem offline_course : Course offlineTools [] smallSettings ⟨savedDisk, ()⟩ offlineCalls
    (.ok ⟨smallChangelogs, 2, 0⟩) ⟨savedAll savedDisk, ()⟩ := by
  have ready : isReady savedDisk = true := by decide +kernel
  obtain ⟨blocks, later⟩ := later_blocks offlineTools rfl rfl ready
  have nearest : manifestAt [] smallSettings.root (Path.ofString "/p/a.xml") (⟨savedDisk, ()⟩ : Moment Unit) =
      some (Path.ofString "/p/pom.xml") := by decide +kernel
  have there : isThere [] smallSettings (⟨savedDisk, ()⟩ : Moment Unit) "4" = true := by decide +kernel
  have first : Converting offlineTools [] smallSettings [] (Path.ofString "/p/a.xml") ⟨savedDisk, ()⟩
      [listing savedDisk (Path.ofString "/p"), saving savedDisk (Path.ofString "/p/a.xml")]
      (.ok ⟨Path.ofString "/p/a.xml", Path.ofString "/p/pom.xml", "4"⟩) ⟨savedOne savedDisk, ()⟩ :=
    block_listed offlineTools rfl rfl nearest rfl (by decide) there
  have whole := Blocks.converted first later
  have same : offlineCalls = guarding savedDisk :: ([listing savedDisk (Path.ofString "/p"),
      saving savedDisk (Path.ofString "/p/a.xml")] ++ (conversions savedDisk).tail) := rfl
  rw [same]
  exact .finished ⟨rfl, rfl, rfl⟩ saved_discovery whole

/-- The answers that these collaborators give. -/
def answerTo : Request → Exchange
  | .workingTree root => .workingTree root (.ok true)
  | .dependencies project => .dependencies project (.ok smallListing)
  | .download url destination => .download url destination (.ok .fetched)
  | .convert jar changelog => .convert jar changelog (.ok true)

/-- Collaborators that go by what they are asked answer as they did before. -/
theorem answered_alike {calls : List (Call Unit)} {again : Call Unit}
    (content : ∀ call ∈ calls, call.exchange = answerTo call.request)
    (content' : again.exchange = answerTo again.request) : AnsweredAsIn calls again := by
  intro call made same
  rw [content call made, content', same]

theorem savingCalls_content : ∀ call ∈ savingCalls, call.exchange = answerTo call.request := by
  simp only [savingCalls, conversions, List.cons_append, List.nil_append, List.forall_mem_cons]
  exact ⟨rfl, rfl, rfl, rfl, rfl, rfl, rfl, by simp⟩

theorem offlineCalls_content : ∀ call ∈ offlineCalls, call.exchange = answerTo call.request := by
  simp only [offlineCalls, conversions, List.cons_append, List.nil_append, List.forall_mem_cons]
  exact ⟨rfl, rfl, rfl, rfl, rfl, rfl, by simp⟩

/-- The small project is converted once more without a network, by writing over what
the first run left. -/
theorem offline_run_repeats :
    ∃ final : World Unit,
      (run savingTools smallSettings).perform smallWorld = (.ok ⟨smallChangelogs, 2, 1⟩, final) ∧
      final.disk = savedDisk ∧
      (∀ call ∈ savingCalls, Harmless [] smallSettings smallWorld.view call) ∧
      (∀ call ∈ offlineCalls, Gentle smallSettings smallWorld.view (call.before.view []) (call.after.view [])) ∧
      (∀ call ∈ offlineCalls, AnsweredAsIn savingCalls call) ∧
      ((run offlineTools smallSettings).perform ⟨savedDisk, [], (), []⟩).1 =
        .ok ⟨smallChangelogs, 2, 0⟩ := by
  have gentle : ∀ call ∈ offlineCalls,
      Gentle smallSettings smallWorld.view (call.before.view []) (call.after.view []) :=
    fun call made => (offlineCalls_harmless call made).gentle
  have alike : ∀ call ∈ offlineCalls, AnsweredAsIn savingCalls call :=
    fun call made => answered_alike savingCalls_content (offlineCalls_content call made)
  obtain ⟨final, performed, account, there⟩ := run_performs saving_course smallWorld rfl rfl
  obtain ⟨final', performed', account', -⟩ :=
    run_performs offline_course ⟨savedDisk, [], (), []⟩ rfl rfl
  have left : final.disk = savedDisk := congrArg Moment.disk there
  refine ⟨final, performed, left, savingCalls_harmless, gentle, alike, ?_⟩
  obtain ⟨calls, calls', first, second, repeats⟩ := second_run_repeats savingTools offlineTools
    smallSettings smallWorld final ⟨savedDisk, [], (), []⟩ _ performed rfl
  rw [performed'] at second
  obtain rfl := account.unique first
  obtain rfl := account'.unique second
  have same : final.view = ⟨savedDisk, []⟩ := by
    rw [World.view, left, account.place]
    rfl
  exact (repeats savingCalls_harmless (same ▸ .refl _ _ _) (fun call made _ => gentle call made)
    fun call made _ => alike call made).1

/-- Where a call may write: what is fetched is written where it was asked for, and what is
converted has the extension of a result. -/
def MayWrite (cwd : Location) (call : Call σ) (spot : Location) : Prop :=
  match call.exchange with
  | .download _ destination (.ok .fetched) => placeOf? (call.before.view cwd) destination = some spot
  | .convert .. => spot.path.extension? = some (Bytes.ofString Output.format)
  | _ => False

/-- A call writes no more than it may, and what it has fetched is there afterwards. -/
structure Modest (cwd : Location) (call : Call σ) : Prop where
  written : ∃ spots, Written call.before.disk call.after.disk spots ∧ ∀ spot ∈ spots, MayWrite cwd call spot
  fetched : ∀ path, fetchesTo path call = true → (call.after.view cwd).isFile path = true

/-- A disk with a changelog, and a link to what it is going to be converted to. -/
def linkedDisk : Disk where
  top := .cons smallName (.directory programMode
    (.cons ⟨Bytes.ofString "h.xml", by decide⟩ (.file 0)
    (.cons ⟨Bytes.ofString "i.xml", by decide⟩ (.link (Path.ofString "h.sql"))
    (.cons manifestName (.file 1) .nil)))) .nil
  files := smallDisk.files
  clock := 0
  tidy := rfl

/-- The disk that a run over it leaves. -/
def relinkedDisk : Disk :=
  saved (fetched linkedDisk) (Path.ofString "/p/h.xml")

/-- The calls of this run, and of the next. -/
def linkedCalls : List (Call Unit) :=
  [guarding linkedDisk, listing linkedDisk (Path.ofString "/p"), fetching linkedDisk,
    saving (fetched linkedDisk) (Path.ofString "/p/h.xml")]

def relinkedCalls : List (Call Unit) :=
  [guarding relinkedDisk, listing relinkedDisk (Path.ofString "/p"),
    saving relinkedDisk (Path.ofString "/p/h.xml"),
    saving (saved relinkedDisk (Path.ofString "/p/h.xml")) (Path.ofString "/p/i.xml")]

theorem linked_discovery :
    (Discovery.changelogs ⟨linkedDisk, []⟩ smallSettings.root).1 = .ok [Path.ofString "/p/h.xml"] := by
  have there : View.stat ⟨linkedDisk, []⟩ (Path.ofString "/p") = .ok _ := rfl
  have visits := visits_in_order there (by decide) (.refl _) (by decide)
  simp only [Discovery.changelogs, Discovery.scan, smallSettings, visits]
  decide

theorem relinked_discovery : (Discovery.changelogs ⟨relinkedDisk, []⟩ smallSettings.root).1 =
    .ok [Path.ofString "/p/h.xml", Path.ofString "/p/i.xml"] := by
  have there : View.stat ⟨relinkedDisk, []⟩ (Path.ofString "/p") = .ok (.directory programMode _) := rfl
  have visits := visits_in_order there (by decide) (List.perm_append_singleton _ [_, _, _]).symm (by decide)
  simp only [Discovery.changelogs, Discovery.scan, smallSettings, visits]
  decide +kernel

theorem linked_course : Course savingTools [] smallSettings ⟨linkedDisk, ()⟩ linkedCalls
    (.ok ⟨[Path.ofString "/p/h.xml"], 1, 1⟩) ⟨relinkedDisk, ()⟩ := by
  have nearest : manifestAt [] smallSettings.root (Path.ofString "/p/h.xml") (⟨linkedDisk, ()⟩ : Moment Unit) =
      some (Path.ofString "/p/pom.xml") := by decide
  have missing : isThere [] smallSettings (⟨linkedDisk, ()⟩ : Moment Unit) "4" = false := by decide
  have whole : Blocks savingTools [] smallSettings [] [Path.ofString "/p/h.xml"] ⟨linkedDisk, ()⟩
      linkedCalls.tail [⟨Path.ofString "/p/h.xml", Path.ofString "/p/pom.xml", "4"⟩] none ⟨relinkedDisk, ()⟩ :=
    .converted (block_fetched nearest rfl (by decide) missing) .done
  exact .finished ⟨rfl, rfl, rfl⟩ linked_discovery whole

theorem relinked_course : Course offlineTools [] smallSettings ⟨relinkedDisk, ()⟩ relinkedCalls
    (.ok ⟨[Path.ofString "/p/h.xml", Path.ofString "/p/i.xml"], 1, 0⟩)
    ⟨saved (saved relinkedDisk (Path.ofString "/p/h.xml")) (Path.ofString "/p/i.xml"), ()⟩ := by
  let once : Moment Unit := ⟨saved relinkedDisk (Path.ofString "/p/h.xml"), ()⟩
  have first : manifestAt [] smallSettings.root (Path.ofString "/p/h.xml") (⟨relinkedDisk, ()⟩ : Moment Unit) =
      some (Path.ofString "/p/pom.xml") := by decide +kernel
  have second : manifestAt [] smallSettings.root (Path.ofString "/p/i.xml") once =
      some (Path.ofString "/p/pom.xml") := by decide +kernel
  have there : isThere [] smallSettings (⟨relinkedDisk, ()⟩ : Moment Unit) "4" = true := by decide +kernel
  have there' : isThere [] smallSettings once "4" = true := by decide +kernel
  have later : Blocks offlineTools [] smallSettings
      [⟨Path.ofString "/p/h.xml", Path.ofString "/p/pom.xml", "4"⟩] [Path.ofString "/p/i.xml"] once
      [saving once.disk (Path.ofString "/p/i.xml")]
      [⟨Path.ofString "/p/i.xml", Path.ofString "/p/pom.xml", "4"⟩] none _ :=
    .converted (block_remembered offlineTools rfl second rfl there') .done
  have earlier : Converting offlineTools [] smallSettings [] (Path.ofString "/p/h.xml") ⟨relinkedDisk, ()⟩
      [listing relinkedDisk (Path.ofString "/p"), saving relinkedDisk (Path.ofString "/p/h.xml")]
      (.ok ⟨Path.ofString "/p/h.xml", Path.ofString "/p/pom.xml", "4"⟩) once :=
    block_listed offlineTools rfl rfl first rfl (by decide) there
  have whole := Blocks.converted earlier later
  exact .finished ⟨rfl, rfl, rfl⟩ relinked_discovery whole

theorem guarding_modest (disk : Disk) : Modest [] (guarding disk) :=
  ⟨⟨[], .refl disk, by simp⟩, fun _ never => by cases never⟩

theorem listing_modest (disk : Disk) (project : Path) : Modest [] (listing disk project) :=
  ⟨⟨[], .refl disk, by simp⟩, fun _ never => by cases never⟩

theorem fetching_modest {disk : Disk} (can : canWrite ⟨disk, []⟩ smallJar.path = true)
    (there : View.isFile ⟨fetched disk, []⟩ smallJar.path = true) : Modest [] (fetching disk) := by
  obtain ⟨spot, leads, written⟩ := writtenAt_written [] can
  refine ⟨⟨[spot], written, List.forall_mem_singleton.mpr leads⟩, fun path asked => ?_⟩
  obtain rfl : _ = path := of_decide_eq_true asked
  exact there

theorem saving_modest {disk : Disk} {changelog : Path}
    (can : canWrite ⟨disk, []⟩ (Output.pathFor changelog) = true)
    (named : ((placeOf? ⟨disk, []⟩ (Output.pathFor changelog)).bind fun spot => spot.path.extension?) =
      some (Bytes.ofString Output.format)) : Modest [] (saving disk changelog) := by
  obtain ⟨spot, leads, written⟩ := writtenAt_written (Bytes.ofString "-- databaseChangeLog") can
  rw [leads] at named
  exact ⟨⟨[spot], written, List.forall_mem_singleton.mpr named⟩, fun _ never => by cases never⟩

theorem linkedCalls_modest : ∀ call ∈ linkedCalls ++ relinkedCalls, Modest [] call := by
  simp only [linkedCalls, relinkedCalls, List.cons_append, List.nil_append, List.forall_mem_cons]
  refine ⟨guarding_modest _, listing_modest _ _, fetching_modest ?_ ?_, saving_modest ?_ ?_, guarding_modest _,
    listing_modest _ _, saving_modest ?_ ?_, saving_modest ?_ ?_, by simp⟩ <;> decide +kernel

theorem linkedCalls_content :
    ∀ call ∈ linkedCalls ++ relinkedCalls, call.exchange = answerTo call.request := by
  simp only [linkedCalls, relinkedCalls, List.cons_append, List.nil_append, List.forall_mem_cons]
  exact ⟨rfl, rfl, rfl, rfl, rfl, rfl, rfl, rfl, by simp⟩

/-- A link can make a changelog of what is converted: though both runs write no more than
they may and the second is answered as the first was, it finds one more. -/
theorem second_run_not_always_repeats :
    ∃ final final',
      (run savingTools smallSettings).perform ⟨linkedDisk, [], (), []⟩ =
        (.ok ⟨[Path.ofString "/p/h.xml"], 1, 1⟩, final) ∧
      Accounts savingTools ⟨linkedDisk, [], (), []⟩ final linkedCalls ∧
      (run offlineTools smallSettings).perform ⟨final.disk, final.cwd, (), []⟩ =
        (.ok ⟨[Path.ofString "/p/h.xml", Path.ofString "/p/i.xml"], 1, 0⟩, final') ∧
      Accounts offlineTools ⟨final.disk, final.cwd, (), []⟩ final' relinkedCalls ∧
      (∀ call ∈ linkedCalls ++ relinkedCalls, Modest [] call) ∧
      ∀ call ∈ relinkedCalls, AnsweredAsIn linkedCalls call := by
  obtain ⟨content, content'⟩ := List.forall_mem_append.mp linkedCalls_content
  obtain ⟨final, performed, account, there⟩ := run_performs linked_course ⟨linkedDisk, [], (), []⟩ rfl rfl
  have left : final.disk = relinkedDisk := congrArg Moment.disk there
  have place : final.cwd = [] := account.place
  obtain ⟨final', performed', account', -⟩ :=
    run_performs relinked_course ⟨final.disk, final.cwd, (), []⟩ (by rw [momentOf, left]) place
  exact ⟨final, final', performed, account, performed', account', linkedCalls_modest,
    fun call made => answered_alike content (content' call made)⟩

end ChangelogSql.SecondRun
