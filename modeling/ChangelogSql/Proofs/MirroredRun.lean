import ChangelogSql.CommandLine.Run

/-! Two runs side by side. Where the collaborators of one answer as those of the
other do, and a relation between the worlds outlasts every step, it outlasts the
run, and both runs come to the same. The relation decides what the comparison is
about: what may be forgotten of a world, or what is true of it throughout. -/
namespace ChangelogSql.MirroredRun
open Files Conversion

variable {σ τ α β : Type}

/-- From worlds that are related, both actions come to the same and leave worlds that are. -/
def Mirrors (R : World τ → World σ → Prop) (action' : Action τ α) (action : Action σ α) : Prop :=
  ∀ world' world, R world' world →
    (action'.perform world').1 = (action.perform world).1 ∧
      R (action'.perform world').2 (action.perform world).2

/-- The message is the last one, which counts what was done. -/
def isSummary : Message → Bool
  | .summary .. => true
  | _ => false

/-- What a relation between worlds has to outlast: what a run tells, its summary
left out, what it records, and each of the four requests. -/
structure Mirroring (tools' : Toolchain τ) (tools : Toolchain σ)
    (R : World τ → World σ → Prop) : Prop where
  view : ∀ {world' world}, R world' world → world'.view = world.view
  say : ∀ {world' world}, R world' world → ∀ message, isSummary message = false →
    R (world'.add [.said message]) (world.add [.said message])
  note : ∀ {world' world}, R world' world → ∀ records : List Record,
    R (world'.add (records.map fun record => .aside (.record record)))
      (world.add (records.map fun record => .aside (.record record)))
  workingTree : ∀ root, Mirrors R (tools'.askWorkingTree root) (tools.askWorkingTree root)
  dependencies : ∀ project,
    Mirrors R (tools'.askDependencies project) (tools.askDependencies project)
  download : ∀ url destination,
    Mirrors R (tools'.askDownload url destination) (tools.askDownload url destination)
  convert : ∀ jar changelog, Mirrors R (tools'.askConvert jar changelog) (tools.askConvert jar changelog)

/-- One step after another: the second is not made if the first fails. -/
theorem perform_bind (action : Action σ α) (next : α → Action σ β) (world : World σ) :
    (action >>= next).perform world =
      match action.perform world with
      | (.ok a, middle) => (next a).perform middle
      | (.error failure, middle) => (.error failure, middle) := by
  simp only [Action.perform]
  change (ExceptT.bind action next) world = _
  simp only [ExceptT.bind, ExceptT.mk, Bind.bind, StateT.bind, ExceptT.bindCont]
  cases action world with
  | mk outcome middle => cases outcome <;> rfl

namespace Mirrors

variable {R : World τ → World σ → Prop} {action' : Action τ α} {action : Action σ α}
variable {next' : α → Action τ β} {next : α → Action σ β}

protected theorem pure (a : α) : Mirrors R (Pure.pure a) (Pure.pure a) :=
  fun _ _ related => ⟨rfl, related⟩

protected theorem throw (failure : Failure) :
    Mirrors R (MonadExcept.throw failure : Action τ α) (MonadExcept.throw failure) :=
  fun _ _ related => ⟨rfl, related⟩

protected theorem bind (first : Mirrors R action' action) (second : ∀ a, Mirrors R (next' a) (next a)) :
    Mirrors R (action' >>= next') (action >>= next) := by
  intro world' world related
  obtain ⟨same, after⟩ := first world' world related
  rw [perform_bind, perform_bind]
  cases performed' : action'.perform world' with
  | mk outcome' middle' =>
    cases performed : action.perform world with
    | mk outcome middle =>
      simp only [performed', performed] at same after
      subst same
      cases outcome' with
      | error failure => exact ⟨rfl, after⟩
      | ok a => exact second a middle' middle after

protected theorem ite {condition : Bool} {other' : Action τ α} {other : Action σ α}
    (yes : Mirrors R action' action) (no : Mirrors R other' other) :
    Mirrors R (if condition then action' else other') (if condition then action else other) := by
  cases condition with
  | false => exact no
  | true => exact yes

end Mirrors

namespace Mirroring

variable {tools' : Toolchain τ} {tools : Toolchain σ} {R : World τ → World σ → Prop}

/-- Both runs see the same disk, so what they do with it is told by one view. -/
theorem viewed (mirroring : Mirroring tools' tools R) {next' : View → Action τ β}
    {next : View → Action σ β} (second : ∀ view, Mirrors R (next' view) (next view)) :
    Mirrors R (Action.view >>= next') (Action.view >>= next) := by
  refine Mirrors.bind (fun world' world related => ⟨?_, related⟩) second
  exact congrArg Except.ok (mirroring.view related)

theorem said (mirroring : Mirroring tools' tools R) (message : Message)
    (quiet : isSummary message = false) : Mirrors R (Action.say message) (Action.say message) :=
  fun _ _ related => ⟨rfl, mirroring.say related message quiet⟩

theorem noted (mirroring : Mirroring tools' tools R) (records : List Record) :
    Mirrors R (Action.note records) (Action.note records) :=
  fun _ _ related => ⟨rfl, mirroring.note related records⟩

theorem guard_mirrors (mirroring : Mirroring tools' tools R) (root : Path) :
    Mirrors R (guard tools' root) (guard tools root) := by
  refine (mirroring.workingTree root).bind fun inside => ?_
  cases inside with
  | false => exact .throw _
  | true => exact mirroring.noted _

theorem discover_mirrors (mirroring : Mirroring tools' tools R) (root : Path) :
    Mirrors R (discover root) (discover root) := by
  refine mirroring.viewed fun view => ?_
  dsimp only
  refine (mirroring.noted _).bind fun _ => ?_
  cases (Discovery.changelogs view root).1 with
  | error failure => exact .throw _
  | ok changelogs => exact .pure _

theorem resolve_mirrors (mirroring : Mirroring tools' tools R) (root changelog : Path) (memo : Memo) :
    Mirrors R (resolve tools' root changelog memo) (resolve tools root changelog memo) := by
  refine mirroring.viewed fun view => ?_
  cases Manifest.nearest? view (changelog.parent?.getD root) root with
  | none => exact .throw _
  | some manifest =>
    dsimp only
    cases memo.find? manifest with
    | some version => exact (mirroring.noted _).bind fun _ => .pure _
    | none =>
      refine (mirroring.dependencies _).bind fun listing => ?_
      cases Version.inListing? listing with
      | none => exact .throw _
      | some version => exact .pure _

theorem ensure_mirrors (mirroring : Mirroring tools' tools R) (store : JarStore) (version : String) :
    Mirrors R (store.ensure tools' version) (store.ensure tools version) := by
  refine mirroring.viewed fun view => ?_
  cases view.isFile (store.jar version).path with
  | true => exact (mirroring.said _ rfl).bind fun _ => .pure _
  | false =>
    refine (mirroring.said _ rfl).bind fun _ => (mirroring.download _ _).bind fun download => ?_
    cases download with
    | fetched => exact (mirroring.noted _).bind fun _ => .pure _
    | failed output => exact (mirroring.said _ rfl).bind fun _ => .throw _

theorem convertOne_mirrors (mirroring : Mirroring tools' tools R) (root : Path) (progress : Progress)
    (changelog : Path) :
    Mirrors R (convertOne tools' root progress changelog) (convertOne tools root progress changelog) := by
  refine (mirroring.said _ rfl).bind fun _ =>
    (mirroring.resolve_mirrors root changelog progress.memo).bind fun resolved => ?_
  obtain ⟨resolution, memo⟩ := resolved
  refine Mirrors.ite ((mirroring.noted _).bind fun _ => ?_) ?_
  all_goals
    refine (mirroring.said _ rfl).bind fun _ => (mirroring.said _ rfl).bind fun _ =>
      (mirroring.ensure_mirrors progress.store resolution.version).bind fun supplied =>
      (mirroring.convert supplied.1.path changelog).bind fun success => ?_
    cases success with
    | false => exact .throw _
    | true => exact (mirroring.said _ rfl).bind fun _ => .pure _

/-- The loop over the changelogs, by induction on those that are left. -/
theorem loop_mirrors (mirroring : Mirroring tools' tools R) (root : Path) (changelogs : List Path)
    (progress : Progress) :
    Mirrors R (changelogs.foldlM (convertOne tools' root) progress)
      (changelogs.foldlM (convertOne tools root) progress) := by
  induction changelogs generalizing progress with
  | nil => exact .pure _
  | cons changelog rest ih => exact (mirroring.convertOne_mirrors root progress changelog).bind ih

/-- What each step keeps, a whole run keeps. -/
theorem run_mirrors (mirroring : Mirroring tools' tools R) (settings : Settings) :
    Mirrors R (run tools' settings) (run tools settings) := by
  refine (mirroring.guard_mirrors _).bind fun _ => (mirroring.discover_mirrors _).bind fun changelogs =>
    (mirroring.noted _).bind fun _ => ?_
  have rest := (mirroring.loop_mirrors settings.root changelogs (Progress.start settings)).bind
    fun progress => Mirrors.pure progress.summary
  dsimp only
  split
  · exact (mirroring.said _ rfl).bind fun _ => rest
  · exact rest

end Mirroring

/-- What the arguments ask for: nothing is done without a root, and something is counted
only after a run that converted something. -/
theorem perform_convert (tools : Toolchain σ) (arguments : CommandLine.Arguments) (world : World σ) :
    (CommandLine.convert tools arguments).perform world =
      match Settings.settle world.view arguments.root? arguments.artifactDirectory? with
      | .error failure => (.error failure, world)
      | .ok settings =>
        let started := world.add [.aside (.record (CommandLine.settingsRecord settings))]
        match (run tools settings).perform started with
        | (.error failure, final) => (.error failure, final)
        | (.ok summary, final) =>
          (.ok summary,
            if summary.converted.isEmpty then final
            else final.add
              [.said (.summary summary.converted.length summary.manifests summary.downloads)]) := by
  unfold CommandLine.convert
  rw [perform_bind]
  have viewed : (Action.view : Action σ View).perform world = (.ok world.view, world) := rfl
  rw [viewed]
  dsimp only
  cases Settings.settle world.view arguments.root? arguments.artifactDirectory? with
  | error failure => rfl
  | ok settings =>
    dsimp only
    rw [perform_bind]
    have noted : (Action.note [CommandLine.settingsRecord settings] : Action σ Unit).perform world =
        (.ok (), world.add [.aside (.record (CommandLine.settingsRecord settings))]) := rfl
    rw [noted]
    dsimp only
    rw [perform_bind]
    cases (run tools settings).perform
        (world.add [.aside (.record (CommandLine.settingsRecord settings))]) with
    | mk outcome final =>
      cases outcome with
      | error failure => rfl
      | ok summary => cases empty : summary.converted.isEmpty <;> simp only [empty] <;> rfl

/-- What a run keeps, the program keeps that tells the summary after it. -/
theorem Mirroring.convert_mirrors {tools' : Toolchain τ} {tools : Toolchain σ}
    {R : World τ → World σ → Prop} (mirroring : Mirroring tools' tools R)
    (say : ∀ {world' world}, R world' world → ∀ message,
      R (world'.add [.said message]) (world.add [.said message]))
    (arguments : CommandLine.Arguments) :
    Mirrors R (CommandLine.convert tools' arguments) (CommandLine.convert tools arguments) := by
  intro world' world related
  rw [perform_convert, perform_convert, mirroring.view related]
  cases Settings.settle world.view arguments.root? arguments.artifactDirectory? with
  | error failure => exact ⟨rfl, related⟩
  | ok settings =>
    have started := mirroring.note related [CommandLine.settingsRecord settings]
    obtain ⟨same, ended⟩ := mirroring.run_mirrors settings _ _ started
    simp only [List.map_cons, List.map_nil] at same ended
    dsimp only
    cases performed' : (run tools' settings).perform
        (world'.add [.aside (.record (CommandLine.settingsRecord settings))]) with
    | mk outcome' final' =>
      cases performed : (run tools settings).perform
          (world.add [.aside (.record (CommandLine.settingsRecord settings))]) with
      | mk outcome final =>
        simp only [performed', performed] at same ended
        subst same
        cases outcome' with
        | error failure => exact ⟨rfl, ended⟩
        | ok summary =>
          dsimp only
          refine ⟨rfl, ?_⟩
          split
          · exact ended
          · exact say ended _

/-- What was said, the summaries of it. -/
def summaries (events : List Event) : List Message :=
  (Transcript.messages events).filter isSummary

/-- Nothing is counted before the end: a run itself tells no summary. -/
theorem run_summaries (tools : Toolchain σ) (settings : Settings) (world : World σ)
    (quiet : summaries world.events = []) :
    summaries ((run tools settings).perform world).2.events = [] := by
  have asking {α : Type} (request : Request) (collaborator : View → σ → Reply σ α) :
      Mirrors (fun world' world => world' = world ∧ summaries world.events = [])
        (Action.ask request collaborator) (Action.ask request collaborator) := by
    rintro _ world ⟨rfl, before⟩
    refine ⟨rfl, rfl, ?_⟩
    simpa [Action.perform, Action.ask, World.add, summaries, Transcript.messages,
      List.filterMap_map, Function.comp_def] using before
  have mirroring : Mirroring tools tools fun world' world => world' = world ∧ summaries world.events = [] :=
    { view := by rintro _ _ ⟨rfl, -⟩; rfl
      say := by
        rintro _ world ⟨rfl, before⟩ message other
        refine ⟨rfl, ?_⟩
        simpa [World.add, summaries, Transcript.messages, other] using before
      note := by
        rintro _ world ⟨rfl, before⟩ records
        refine ⟨rfl, ?_⟩
        simpa [World.add, summaries, Transcript.messages, List.filterMap_map,
          Function.comp_def] using before
      workingTree := fun _ => asking _ _
      dependencies := fun _ => asking _ _
      download := fun _ _ => asking _ _
      convert := fun _ _ => asking _ _ }
  exact (mirroring.run_mirrors settings world world ⟨rfl, quiet⟩).2.2

end ChangelogSql.MirroredRun
