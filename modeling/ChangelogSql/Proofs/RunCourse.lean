import ChangelogSql.Conversion.Run
import ChangelogSql.Proofs.ResolutionMemo

/-! The course of a run, told by what is asked and what is answered. Its rules
know neither memo nor counters: whether a manifest is listed depends on the
blocks before, and whether a jar is fetched on the disk of that moment. A run
follows these rules whatever its collaborators do, and they leave it no choice. -/
namespace ChangelogSql.RunCourse
open Files Conversion CallAccounts ResolutionMemo

variable {σ : Type}

/-- How a jar comes to be there: it is fetched, once, if its path is not that of a
regular file at this moment. -/
inductive Supplying (tools : Toolchain σ) (cwd : Location) (jar : Jar) (now : Moment σ) :
    List (Call σ) → Except Failure Unit → Moment σ → Prop
  | present (there : (now.view cwd).isFile jar.path = true) :
      Supplying tools cwd jar now [] (.ok ()) now
  | fetched (missing : (now.view cwd).isFile jar.path = false)
      (asked : Answered tools cwd now (.download jar.url jar.path (.ok .fetched)) after) :
      Supplying tools cwd jar now
        [⟨now, .download jar.url jar.path (.ok .fetched), after⟩] (.ok ()) after
  | unfetched (missing : (now.view cwd).isFile jar.path = false)
      (asked : Answered tools cwd now (.download jar.url jar.path (.ok (.failed output))) after) :
      Supplying tools cwd jar now
        [⟨now, .download jar.url jar.path (.ok (.failed output)), after⟩]
        (.error (.download jar.url)) after
  | refused {failure : Failure} (missing : (now.view cwd).isFile jar.path = false)
      (asked : Answered tools cwd now (.download jar.url jar.path (.error failure)) after) :
      Supplying tools cwd jar now
        [⟨now, .download jar.url jar.path (.error failure), after⟩] (.error failure) after

/-- A changelog that was converted, with the manifest and the version it was
converted for. -/
structure Block where
  changelog : Path
  manifest : Path
  version : String

/-- The version of a manifest is that of the first block it belonged to. -/
def versionFrom (earlier : List Block) (manifest : Path) : Option String :=
  (earlier.find? fun block => block.manifest.sameAs manifest).map Block.version

/-- The jar for a version, under the settings of a run. -/
def jarFor (settings : Settings) (version : String) : Jar :=
  Jar.forVersion version settings.artifactDirectory settings.baseUrl

/-- How one changelog is converted after the blocks before it. -/
inductive Converting (tools : Toolchain σ) (cwd : Location) (settings : Settings)
    (earlier : List Block) (changelog : Path) (now : Moment σ) :
    List (Call σ) → Except Failure Block → Moment σ → Prop
  | unresolved {failure : Failure}
      (resolving : Resolving tools cwd settings.root (versionFrom earlier) changelog now calls
        (.error failure) after) :
      Converting tools cwd settings earlier changelog now calls (.error failure) after
  | unsupplied {failure : Failure}
      (resolving : Resolving tools cwd settings.root (versionFrom earlier) changelog now calls
        (.ok found) resolved)
      (supplying : Supplying tools cwd (jarFor settings found.version) resolved more
        (.error failure) after) :
      Converting tools cwd settings earlier changelog now (calls ++ more) (.error failure) after
  | refused {failure : Failure}
      (resolving : Resolving tools cwd settings.root (versionFrom earlier) changelog now calls
        (.ok found) resolved)
      (supplying : Supplying tools cwd (jarFor settings found.version) resolved more (.ok ()) supplied)
      (asked : Answered tools cwd supplied
        (.convert (jarFor settings found.version).path changelog (.error failure)) after) :
      Converting tools cwd settings earlier changelog now
        (calls ++ (more ++ [⟨supplied,
          .convert (jarFor settings found.version).path changelog (.error failure), after⟩]))
        (.error failure) after
  | unconverted
      (resolving : Resolving tools cwd settings.root (versionFrom earlier) changelog now calls
        (.ok found) resolved)
      (supplying : Supplying tools cwd (jarFor settings found.version) resolved more (.ok ()) supplied)
      (asked : Answered tools cwd supplied
        (.convert (jarFor settings found.version).path changelog (.ok false)) after) :
      Converting tools cwd settings earlier changelog now
        (calls ++ (more ++ [⟨supplied,
          .convert (jarFor settings found.version).path changelog (.ok false), after⟩]))
        (.error (.conversion changelog)) after
  | converted
      (resolving : Resolving tools cwd settings.root (versionFrom earlier) changelog now calls
        (.ok found) resolved)
      (supplying : Supplying tools cwd (jarFor settings found.version) resolved more (.ok ()) supplied)
      (asked : Answered tools cwd supplied
        (.convert (jarFor settings found.version).path changelog (.ok true)) after) :
      Converting tools cwd settings earlier changelog now
        (calls ++ (more ++ [⟨supplied,
          .convert (jarFor settings found.version).path changelog (.ok true), after⟩]))
        (.ok ⟨changelog, found.manifest, found.version⟩) after

/-- The blocks of a run, one for each changelog in the order given, up to the
first that fails. -/
inductive Blocks (tools : Toolchain σ) (cwd : Location) (settings : Settings) :
    List Block → List Path → Moment σ → List (Call σ) → List Block → Option Failure →
      Moment σ → Prop
  | done : Blocks tools cwd settings earlier [] now [] [] none now
  | failed {failure : Failure}
      (converting : Converting tools cwd settings earlier changelog now calls (.error failure) after) :
      Blocks tools cwd settings earlier (changelog :: rest) now calls [] (some failure) after
  | converted
      (converting : Converting tools cwd settings earlier changelog now calls (.ok block) middle)
      (others : Blocks tools cwd settings (earlier ++ [block]) rest middle more blocks failure? after) :
      Blocks tools cwd settings earlier (changelog :: rest) now (calls ++ more) (block :: blocks)
        failure? after

/-- The call asks for a project's dependencies. -/
def isListing (call : Call σ) : Bool :=
  match call.exchange with
  | .dependencies .. => true
  | _ => false

/-- The call asks for a download. -/
def isDownload (call : Call σ) : Bool :=
  match call.exchange with
  | .download .. => true
  | _ => false

/-- A whole run: nothing is discovered outside a working tree, the changelogs are
discovered once, and a run that goes through reports the calls it made. -/
inductive Course (tools : Toolchain σ) (cwd : Location) (settings : Settings) (now : Moment σ) :
    List (Call σ) → Except Failure Summary → Moment σ → Prop
  | refused {failure : Failure}
      (asked : Answered tools cwd now (.workingTree settings.root (.error failure)) after) :
      Course tools cwd settings now [⟨now, .workingTree settings.root (.error failure), after⟩]
        (.error failure) after
  | outside (asked : Answered tools cwd now (.workingTree settings.root (.ok false)) after) :
      Course tools cwd settings now [⟨now, .workingTree settings.root (.ok false), after⟩]
        (.error (.notARepository settings.root)) after
  | undiscovered {failure : Failure}
      (asked : Answered tools cwd now (.workingTree settings.root (.ok true)) after)
      (discovered : (Discovery.changelogs (after.view cwd) settings.root).1 = .error failure) :
      Course tools cwd settings now [⟨now, .workingTree settings.root (.ok true), after⟩]
        (.error failure) after
  | aborted {failure : Failure}
      (asked : Answered tools cwd now (.workingTree settings.root (.ok true)) guarded)
      (discovered : (Discovery.changelogs (guarded.view cwd) settings.root).1 = .ok changelogs)
      (blocks : Blocks tools cwd settings [] changelogs guarded calls done (some failure) after) :
      Course tools cwd settings now
        (⟨now, .workingTree settings.root (.ok true), guarded⟩ :: calls) (.error failure) after
  | finished
      (asked : Answered tools cwd now (.workingTree settings.root (.ok true)) guarded)
      (discovered : (Discovery.changelogs (guarded.view cwd) settings.root).1 = .ok changelogs)
      (blocks : Blocks tools cwd settings [] changelogs guarded calls done none after) :
      Course tools cwd settings now
        (⟨now, .workingTree settings.root (.ok true), guarded⟩ :: calls)
        (.ok ⟨changelogs, calls.countP isListing, calls.countP isDownload⟩) after

variable {tools : Toolchain σ} {cwd : Location} {settings : Settings} {now after : Moment σ}
variable {earlier : List Block} {changelog : Path} {changelogs : List Path}
variable {calls : List (Call σ)} {progress : Progress}

/-- The store goes by the rules, and counts the downloads that went through. -/
theorem ensure_performs {store : JarStore}
    (supplying : Supplying tools cwd (store.jar version) now calls outcome after) :
    Performs tools cwd (store.ensure tools version) now calls
      (outcome.map fun _ =>
        (store.jar version, { store with downloads := store.downloads + calls.countP isDownload }))
      after := by
  unfold JarStore.ensure
  cases supplying with
  | present there =>
    refine Performs.view.after_quiet ?_
    simp only [there, ↓reduceIte]
    exact (Performs.say _).after_quiet (.pure _)
  | fetched missing asked =>
    refine Performs.view.after_quiet ?_
    simp only [missing, Bool.false_eq_true, ↓reduceIte]
    exact (Performs.say _).after_quiet
      ((Performs.askDownload asked).before_quiet ((Performs.note _).after_quiet (.pure _)))
  | unfetched missing asked =>
    refine Performs.view.after_quiet ?_
    simp only [missing, Bool.false_eq_true, ↓reduceIte]
    exact (Performs.say _).after_quiet
      ((Performs.askDownload asked).before_quiet ((Performs.say _).after_quiet (.throw _)))
  | refused missing asked =>
    refine Performs.view.after_quiet ?_
    simp only [missing, Bool.false_eq_true, ↓reduceIte]
    exact (Performs.say _).after_quiet (Performs.askDownload asked).bind_error

/-- The state of a run tells no more than its blocks and the numbers of its calls. -/
structure Reflects (settings : Settings) (earlier : List Block) (listings downloads : Nat)
    (progress : Progress) : Prop where
  known : progress.memo.find? = versionFrom earlier
  size : progress.memo.size = listings
  store : progress.store = ⟨settings.artifactDirectory, settings.baseUrl, downloads⟩
  converted : progress.converted = earlier.map Block.changelog

theorem reflects_start (settings : Settings) : Reflects settings [] 0 0 (Progress.start settings) :=
  ⟨rfl, rfl, rfl, rfl⟩

theorem versionFrom_concat (block : Block) (manifest : Path) :
    versionFrom (earlier ++ [block]) manifest = (versionFrom earlier manifest).or
      (if block.manifest.sameAs manifest then some block.version else none) := by
  simp only [versionFrom, List.find?_append, List.find?_cons, List.find?_nil]
  cases earlier.find? fun block => block.manifest.sameAs manifest <;>
    cases block.manifest.sameAs manifest <;> rfl

/-- A manifest has no version yet exactly if no block belonged to it. -/
theorem versionFrom_eq_none_iff :
    versionFrom earlier manifest = none ↔ ∀ block ∈ earlier, block.manifest.sameAs manifest = false := by
  simp [versionFrom]

theorem versionFrom_congr (same : manifest.sameAs other = true) :
    versionFrom earlier manifest = versionFrom earlier other := by
  simp only [versionFrom, sameAs_congr same]

/-- What is learned from one resolution is what its block adds to the blocks before. -/
theorem learned_known {memo : Memo} (known : memo.find? = versionFrom earlier)
    (resolving : Resolving tools cwd root memo.find? changelog now calls (.ok found) after) :
    (learned memo found).find? = versionFrom (earlier ++ [⟨changelog, found.manifest, found.version⟩]) ∧
      (learned memo found).size = memo.size + calls.countP isListing := by
  obtain ⟨-, ⟨cached, met, rfl, rfl⟩ | ⟨fresh, new, project, listing, -, rfl, -, -⟩⟩ :=
    resolving_found resolving
  · refine ⟨?_, by simp [learned, cached]⟩
    funext manifest
    rw [versionFrom_concat, learned, if_pos cached, known]
    by_cases same : found.manifest.sameAs manifest = true
    · rw [known, versionFrom_congr same] at met
      simp [met]
    · simp [same]
  · refine ⟨?_, by simp [learned, fresh, Memo.insert, Memo.size, isListing]⟩
    funext manifest
    rw [versionFrom_concat, learned, fresh, if_neg Bool.false_ne_true, find_insert new, known]
    by_cases same : found.manifest.sameAs manifest = true
    · rw [known, versionFrom_congr same] at new
      simp [same, new]
    · simp [same]

/-- Resolving asks for no download, and supplying for no listing. -/
theorem resolving_downloads {known : Path → Option String}
    (resolving : Resolving tools cwd root known changelog now calls outcome after) :
    calls.countP isDownload = 0 := by
  cases resolving <;> simp [isDownload]

theorem supplying_listings (supplying : Supplying tools cwd jar now calls outcome after) :
    calls.countP isListing = 0 := by
  cases supplying <;> simp [isListing]

/-- Once a changelog is resolved, what is left of its block decides how it ends. -/
private theorem convertOne_resolved (known : progress.memo.find? = versionFrom earlier)
    (resolving : Resolving tools cwd settings.root (versionFrom earlier) changelog now calls
      (.ok found) resolved)
    (others : Performs tools cwd
      (do
        let (jar, store) ← progress.store.ensure tools found.version
        if ← tools.askConvert jar.path changelog then
          Action.say (.converted changelog (Output.pathFor changelog))
          return {
            memo := learned progress.memo found
            store
            converted := progress.converted ++ [changelog] }
        else
          throw (.conversion changelog))
      resolved more outcome after) :
    Performs tools cwd (convertOne tools settings.root progress changelog) now (calls ++ more)
      outcome after := by
  rw [← known] at resolving
  refine (Performs.say _).after_quiet ((resolve_performs resolving).bind ?_)
  dsimp only
  split
  · exact (Performs.note _).after_quiet
      ((Performs.say _).after_quiet ((Performs.say _).after_quiet others))
  · exact (Performs.say _).after_quiet ((Performs.say _).after_quiet others)

theorem Reflects.jar (reflects : Reflects settings earlier listings downloads progress)
    (version : String) : progress.store.jar version = jarFor settings version := by
  rw [reflects.store]
  rfl

/-- A changelog that fails to be converted ends the run with the same failure. -/
theorem convertOne_fails {failure : Failure}
    (reflects : Reflects settings earlier listings downloads progress)
    (converting : Converting tools cwd settings earlier changelog now calls (.error failure) after) :
    Performs tools cwd (convertOne tools settings.root progress changelog) now calls
      (.error failure) after := by
  cases converting with
  | unresolved resolving =>
    rw [← reflects.known] at resolving
    exact (Performs.say _).after_quiet (resolve_performs resolving).bind_error
  | unsupplied resolving supplying =>
    rw [← reflects.jar] at supplying
    exact convertOne_resolved reflects.known resolving (ensure_performs supplying).bind_error
  | refused resolving supplying asked =>
    rw [← reflects.jar] at supplying asked ⊢
    exact convertOne_resolved reflects.known resolving
      ((ensure_performs supplying).bind (Performs.askConvert asked).bind_error)
  | unconverted resolving supplying asked =>
    rw [← reflects.jar] at supplying asked ⊢
    exact convertOne_resolved reflects.known resolving
      ((ensure_performs supplying).bind ((Performs.askConvert asked).before_quiet (.throw _)))

/-- A changelog that is converted leaves a state that tells no more than one more
block and the calls that were made for it. -/
theorem convertOne_converts (reflects : Reflects settings earlier listings downloads progress)
    (converting : Converting tools cwd settings earlier changelog now calls (.ok block) after) :
    ∃ progress', Reflects settings (earlier ++ [block]) (listings + calls.countP isListing)
        (downloads + calls.countP isDownload) progress' ∧
      Performs tools cwd (convertOne tools settings.root progress changelog) now calls
        (.ok progress') after := by
  cases converting with
  | converted resolving supplying asked =>
    have known := reflects.known
    obtain ⟨remembered, size⟩ := learned_known known (known ▸ resolving)
    have none := supplying_listings supplying
    have never := resolving_downloads resolving
    rw [← reflects.jar] at supplying asked ⊢
    refine ⟨_, ?_, convertOne_resolved known resolving ((ensure_performs supplying).bind
      ((Performs.askConvert asked).before_quiet ((Performs.say _).after_quiet (.pure _))))⟩
    refine ⟨remembered, ?_, ?_, ?_⟩
    · simp [size, reflects.size, none, isListing]
    · simp [reflects.store, never, isDownload]
    · simp [reflects.converted]

/-- The loop of a run goes by the blocks: it fails with the first that fails, and
its state tells no more than the blocks and the calls there were. -/
theorem blocks_perform
    (blocks : Blocks tools cwd settings earlier changelogs now calls done failure? after)
    (reflects : Reflects settings earlier listings downloads progress) :
    (∀ failure, failure? = some failure →
      Performs tools cwd (changelogs.foldlM (convertOne tools settings.root) progress) now calls
        (.error failure) after) ∧
    (failure? = none →
      ∃ progress', Reflects settings (earlier ++ done) (listings + calls.countP isListing)
          (downloads + calls.countP isDownload) progress' ∧
        Performs tools cwd (changelogs.foldlM (convertOne tools settings.root) progress) now calls
          (.ok progress') after) := by
  induction blocks generalizing listings downloads progress with
  | done => exact ⟨by simp, fun _ => ⟨progress, by simpa using reflects, .pure _⟩⟩
  | failed converting =>
    refine ⟨?_, by simp⟩
    rintro _ ⟨⟩
    exact (convertOne_fails reflects converting).bind_error
  | converted converting others ih =>
    obtain ⟨middle, reflects', performed⟩ := convertOne_converts reflects converting
    obtain ⟨fails, finishes⟩ := ih reflects'
    refine ⟨fun failure same => performed.bind (fails failure same), fun same => ?_⟩
    obtain ⟨progress', reflects', went⟩ := finishes same
    exact ⟨progress', by simpa [Nat.add_assoc] using reflects', performed.bind went⟩

/-- Where no block fails there is one for each changelog. -/
theorem blocks_changelogs
    (blocks : Blocks tools cwd settings earlier changelogs now calls done failure? after)
    (through : failure? = none) : done.map Block.changelog = changelogs := by
  induction blocks with
  | done => rfl
  | failed => cases through
  | converted converting _ ih =>
    cases converting with
    | converted => simp [ih through]

/-- Discovery looks at the disk of one moment and asks nobody. -/
theorem discover_performs {outcome : Except Failure (List Path)}
    (discovered : (Discovery.changelogs (now.view cwd) root).1 = outcome) :
    Performs tools cwd (discover root) now [] outcome now := by
  refine Performs.view.after_quiet ?_
  simp only [discovered]
  cases outcome with
  | error failure => exact (Performs.note _).after_quiet (.throw _)
  | ok changelogs => exact (Performs.note _).after_quiet (.pure _)

/-- Inside a working tree, what the loop over the discovered changelogs comes to is
what the run comes to. -/
private theorem run_discovered
    (asked : Answered tools cwd now (.workingTree settings.root (.ok true)) guarded)
    (discovered : (Discovery.changelogs (guarded.view cwd) settings.root).1 = .ok changelogs)
    (loop : Performs tools cwd
      (changelogs.foldlM (convertOne tools settings.root) (Progress.start settings)) guarded calls
      outcome after) :
    Performs tools cwd (run tools settings) now
      (⟨now, .workingTree settings.root (.ok true), guarded⟩ :: calls)
      (outcome.map Progress.summary) after := by
  have summed : Performs tools cwd
      (do
        let progress ← changelogs.foldlM (convertOne tools settings.root) (Progress.start settings)
        return progress.summary)
      guarded calls (outcome.map Progress.summary) after := by
    cases outcome with
    | error failure => exact loop.bind_error
    | ok progress => exact loop.before_quiet (.pure _)
  refine ((Performs.askWorkingTree asked).before_quiet (Performs.note _)).bind
    ((discover_performs discovered).after_quiet ((Performs.note _).after_quiet ?_))
  dsimp only
  split
  · exact (Performs.say _).after_quiet summed
  · exact summed

/-- A run that follows a course makes its calls and comes to its end. -/
theorem run_performs (course : Course tools cwd settings now calls outcome after) :
    Performs tools cwd (run tools settings) now calls outcome after := by
  cases course with
  | refused asked => exact (Performs.askWorkingTree asked).bind_error.bind_error
  | outside asked => exact ((Performs.askWorkingTree asked).before_quiet (.throw _)).bind_error
  | undiscovered asked discovered =>
    exact ((Performs.askWorkingTree asked).before_quiet (Performs.note _)).bind
      (discover_performs discovered).bind_error
  | aborted asked discovered blocks =>
    exact run_discovered asked discovered ((blocks_perform blocks (reflects_start settings)).1 _ rfl)
  | finished asked discovered blocks =>
    obtain ⟨progress, reflects, loop⟩ := (blocks_perform blocks (reflects_start settings)).2 rfl
    have went := run_discovered asked discovered loop
    simpa [Except.map, Progress.summary, reflects.converted, reflects.size, reflects.store,
      blocks_changelogs blocks rfl] using went

/-- Whatever the disk and the collaborators are, a jar is supplied in one of the ways. -/
theorem supplying_total (tools : Toolchain σ) (cwd : Location) (jar : Jar) (now : Moment σ) :
    ∃ calls outcome after, Supplying tools cwd jar now calls outcome after := by
  cases there : (now.view cwd).isFile jar.path with
  | true => exact ⟨_, _, _, .present there⟩
  | false =>
    let reply := tools.download jar.url jar.path (now.view cwd) now.memory
    let after : Moment σ := ⟨reply.disk, reply.memory⟩
    cases answer : reply.answer with
    | error failure => exact ⟨_, _, after, .refused there ⟨answer, rfl, rfl⟩⟩
    | ok download =>
      cases download with
      | fetched => exact ⟨_, _, after, .fetched there ⟨answer, rfl, rfl⟩⟩
      | failed output => exact ⟨_, _, after, .unfetched there ⟨answer, rfl, rfl⟩⟩

/-- Whatever was converted before, a changelog is converted or fails in one of the ways. -/
theorem converting_total (tools : Toolchain σ) (cwd : Location) (settings : Settings)
    (earlier : List Block) (changelog : Path) (now : Moment σ) :
    ∃ calls outcome after, Converting tools cwd settings earlier changelog now calls outcome after := by
  obtain ⟨calls, outcome, resolved, resolving⟩ :=
    resolving_total tools cwd settings.root (versionFrom earlier) changelog now
  cases outcome with
  | error failure => exact ⟨_, _, _, .unresolved resolving⟩
  | ok found =>
    let jar := jarFor settings found.version
    obtain ⟨more, outcome, supplied, supplying⟩ := supplying_total tools cwd jar resolved
    cases outcome with
    | error failure => exact ⟨_, _, _, .unsupplied resolving supplying⟩
    | ok =>
      let reply := tools.convert jar.path changelog (supplied.view cwd) supplied.memory
      let after : Moment σ := ⟨reply.disk, reply.memory⟩
      cases answer : reply.answer with
      | error failure => exact ⟨_, _, after, .refused resolving supplying ⟨answer, rfl, rfl⟩⟩
      | ok success =>
        cases success with
        | false => exact ⟨_, _, after, .unconverted resolving supplying ⟨answer, rfl, rfl⟩⟩
        | true => exact ⟨_, _, after, .converted resolving supplying ⟨answer, rfl, rfl⟩⟩

theorem blocks_total (tools : Toolchain σ) (cwd : Location) (settings : Settings)
    (earlier : List Block) (changelogs : List Path) (now : Moment σ) :
    ∃ calls done failure? after,
      Blocks tools cwd settings earlier changelogs now calls done failure? after := by
  induction changelogs generalizing earlier now with
  | nil => exact ⟨_, _, _, _, .done⟩
  | cons changelog rest ih =>
    obtain ⟨calls, outcome, middle, converting⟩ :=
      converting_total tools cwd settings earlier changelog now
    cases outcome with
    | error failure => exact ⟨_, _, _, _, .failed converting⟩
    | ok block =>
      obtain ⟨more, done, failure?, after, others⟩ := ih (earlier ++ [block]) middle
      exact ⟨_, _, _, _, .converted converting others⟩

/-- Every run has a course. -/
theorem course_total (tools : Toolchain σ) (cwd : Location) (settings : Settings) (now : Moment σ) :
    ∃ calls outcome after, Course tools cwd settings now calls outcome after := by
  let reply := tools.workingTree settings.root (now.view cwd) now.memory
  let guarded : Moment σ := ⟨reply.disk, reply.memory⟩
  cases answer : reply.answer with
  | error failure => exact ⟨_, _, guarded, .refused ⟨answer, rfl, rfl⟩⟩
  | ok inside =>
    cases inside with
    | false => exact ⟨_, _, guarded, .outside ⟨answer, rfl, rfl⟩⟩
    | true =>
      cases discovered : (Discovery.changelogs (guarded.view cwd) settings.root).1 with
      | error failure => exact ⟨_, _, guarded, .undiscovered ⟨answer, rfl, rfl⟩ discovered⟩
      | ok changelogs =>
        obtain ⟨calls, done, failure?, after, blocks⟩ :=
          blocks_total tools cwd settings [] changelogs guarded
        cases failure? with
        | some failure => exact ⟨_, _, _, .aborted ⟨answer, rfl, rfl⟩ discovered blocks⟩
        | none => exact ⟨_, _, _, .finished ⟨answer, rfl, rfl⟩ discovered blocks⟩

/-- A run makes exactly the calls of a course and comes to exactly its end, and
there is no other course from the same moment. What the collaborators answer, and
what they do to the disk meanwhile, is left open throughout. -/
theorem run_follows_course (tools : Toolchain σ) (settings : Settings) (world : World σ) :
    ∃ calls,
      Accounts tools world ((run tools settings).perform world).2 calls ∧
      ∀ calls' outcome after,
        Course tools world.cwd settings (momentOf world) calls' outcome after ↔
          calls' = calls ∧ outcome = ((run tools settings).perform world).1 ∧
            after = momentOf ((run tools settings).perform world).2 := by
  obtain ⟨calls, outcome, after, course⟩ :=
    course_total tools world.cwd settings (momentOf world)
  have performs := run_performs course
  obtain ⟨final, performed, account, rfl⟩ := performs world rfl rfl
  rw [performed]
  refine ⟨calls, account, fun calls' outcome' after' => ⟨fun course' => ?_, ?_⟩⟩
  · obtain ⟨rfl, rfl, rfl⟩ := performs.unique (run_performs course')
    exact ⟨rfl, rfl, rfl⟩
  · rintro ⟨rfl, rfl, rfl⟩
    exact course

end ChangelogSql.RunCourse
