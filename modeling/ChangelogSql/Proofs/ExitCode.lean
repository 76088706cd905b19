import ChangelogSql.Proofs.DiscoveryExactness
import ChangelogSql.Proofs.JarOnCommandLine
import ChangelogSql.Proofs.LikeMachines
import ChangelogSql.Proofs.RunVerdict

/-! How the program ends. Its exit code, its last words and the numbers in them go by
the processes it has started: a run is watched by a machine that writes them down, and
the watched run comes to the same. -/
namespace ChangelogSql.ExitCode
open Files Conversion CallAccounts RunCourse Programs Toolchain.Installed CommandLine
open MirroredRun ProcessLog LikeMachines RunVerdict JarOnCommandLine

variable {σ : Type}

/-- The root that the arguments mean can be settled, and this is it. -/
def IsRoot (view : View) (arguments : Arguments) (root : Path) : Prop :=
  ∃ given, Settings.givenRoot view arguments.root? = .ok given ∧ view.canonical given = .ok root

/-- What the run of some arguments comes to on a machine, and the world it leaves. -/
def performed (machine : Machine σ) (arguments : Arguments) (view : View) (memory : σ) :
    Except Failure Summary × World σ :=
  (convert (toolchain machine) arguments).perform ⟨view.disk, view.cwd, memory, []⟩

/-- The processes that are started in this run, in order. -/
def processes (machine : Machine σ) (arguments : Arguments) (view : View) (memory : σ) :
    List (Process σ) :=
  (performed (logged machine) arguments view (memory, [])).2.memory.2

section Program

variable {view : View} {arguments : Arguments} {root : Path} {changelogs : List Path}

/-- Settings are to be had exactly if there is a root. -/
theorem settle_iff : IsRoot view arguments root ↔ ∃ settings,
    Settings.settle view arguments.root? arguments.artifactDirectory? = .ok settings ∧
      settings.root = root := by
  simp only [IsRoot, Settings.settle, Bind.bind, Except.bind]
  cases Settings.givenRoot view arguments.root? with
  | error failure => simp
  | ok given =>
    dsimp only
    cases found : view.canonical given with
    | error fault => simp [found]
    | ok canonical => simp [found]

theorem IsRoot.unique {other : Path} (rooted : IsRoot view arguments root)
    (rooted' : IsRoot view arguments other) : root = other := by
  obtain ⟨given, meant, canonical⟩ := rooted
  obtain ⟨given', meant', canonical'⟩ := rooted'
  obtain rfl := Except.ok.inj (meant.symm.trans meant')
  exact Except.ok.inj (canonical.symm.trans canonical')

/-- What the watched run comes to, by the processes that were started in it. -/
theorem performed_logged (machine : Machine σ) (arguments : Arguments) (view : View) (memory : σ) :
    let ran := processes machine arguments view memory
    (∀ summary, (performed (logged machine) arguments view (memory, [])).1 = .ok summary →
      ∃ root, IsRoot view arguments root ∧ Passed view.cwd root ran summary.converted ∧
        handed ran = summary.converted.map (·, .exited 0) ∧
        summary.converted.length = started "java" ran ∧ summary.manifests = started "mvn" ran ∧
        summary.downloads = started "curl" ran) ∧
    (∀ failure, (performed (logged machine) arguments view (memory, [])).1 = .error failure →
      ∀ root changelogs, IsRoot view arguments root → ¬ Passed view.cwd root ran changelogs) := by
  simp only [processes, performed, perform_convert, World.view]
  cases settled : Settings.settle view arguments.root? arguments.artifactDirectory? with
  | error failure =>
    refine ⟨fun _ never => (by cases never), fun _ _ root changelogs rooted => ?_⟩
    obtain ⟨settings, settled', -⟩ := settle_iff.mp rooted
    cases settled.symm.trans settled'
  | ok settings =>
    obtain ⟨calls, outcome, after, course⟩ := course_total (toolchain (logged machine)) view.cwd
      settings ⟨view.disk, memory, []⟩
    obtain ⟨final, went, -, rfl⟩ := run_performs course
      ((⟨view.disk, view.cwd, (memory, []), []⟩ : World (Logbook σ)).add
        [.aside (.record (settingsRecord settings))]) rfl rfl
    obtain ⟨well, badly⟩ := course_verdict course rfl
    dsimp only
    rw [went]
    cases outcome with
    | error failure =>
      refine ⟨fun _ never => (by cases never), fun _ _ root changelogs rooted => ?_⟩
      obtain ⟨settings', settled', rfl⟩ := settle_iff.mp rooted
      obtain rfl := Except.ok.inj (settled.symm.trans settled')
      exact badly failure changelogs rfl
    | ok summary =>
      refine ⟨?_, fun _ never => (by cases never)⟩
      rintro _ ⟨⟩
      have kept : momentOf (if summary.converted.isEmpty = true then final
          else final.add [.said (.summary summary.converted.length summary.manifests
            summary.downloads)]) = momentOf final := by
        split <;> rfl
      have same := congrArg Moment.memory kept
      simp only [momentOf] at same well ⊢
      rw [same]
      exact ⟨settings.root, settle_iff.mpr ⟨settings, settled, rfl⟩, well summary rfl⟩

/-- The summary is the last thing that happens, and it is told if something was converted. -/
theorem performed_events (machine : Machine σ) (arguments : Arguments) (view : View) (memory : σ) :
    (∀ summary, (performed machine arguments view memory).1 = .ok summary →
      ∃ earlier, summaries earlier = [] ∧
        (performed machine arguments view memory).2.events = earlier ++
          if summary.converted.isEmpty then []
          else [.said (.summary summary.converted.length summary.manifests summary.downloads)]) ∧
    (∀ failure, (performed machine arguments view memory).1 = .error failure →
      summaries (performed machine arguments view memory).2.events = []) := by
  simp only [performed, perform_convert, World.view]
  cases Settings.settle view arguments.root? arguments.artifactDirectory? with
  | error failure => exact ⟨fun _ never => (by cases never), fun _ _ => rfl⟩
  | ok settings =>
    have quiet := run_summaries (toolchain machine) settings
      ((⟨view.disk, view.cwd, memory, []⟩ : World σ).add
        [.aside (.record (settingsRecord settings))]) rfl
    dsimp only
    generalize (Conversion.run (toolchain machine) settings).perform _ = ended at quiet ⊢
    obtain ⟨outcome, final⟩ := ended
    cases outcome with
    | error failure => exact ⟨fun _ never => (by cases never), fun _ _ => quiet⟩
    | ok summary =>
      refine ⟨?_, fun _ never => (by cases never)⟩
      rintro _ ⟨⟩
      refine ⟨final.events, quiet, ?_⟩
      dsimp only
      split <;> simp [World.add]

end Program

/-- What reaches the streams, as far as it is said, recorded or written by a process. Faults of
the filter come first. -/
def told (start : Start) (events : List Event) : List (Stream × Bytes) :=
  (start.filter.2.map fun fault => (Stream.err, Bytes.ofString (Log.warning fault))) ++
    events.flatMap start.output

/-- A failure in words, and a line for each of its causes, the outermost first. -/
def complaint (colored : Bool) (failure : Failure) : String :=
  Emphasis.red.apply colored "Error:" ++ " " ++ failure.message ++ "\n" ++
    String.join (failure.causes.map fun cause => "  " ++ cause ++ "\n")

theorem report_eq (start : Start) (failure : Failure) :
    start.report failure = complaint start.colored failure := by
  have lines (causes : List String) (text : String) :
      causes.foldl (fun text cause => text ++ "  " ++ cause ++ "\n") text =
        text ++ String.join (causes.map fun cause => "  " ++ cause ++ "\n") := by
    induction causes generalizing text with
    | nil => simp
    | cons cause rest ih =>
      rw [List.foldl_cons, ih, List.map_cons, String.join_cons]
      simp only [String.append_assoc]
  exact lines _ _

/-- The program ends well with these changelogs: each was handed to `java` once, in order, and the
last thing it says, if there are any, is how many processes there were. -/
structure EndsWell (start : Start) (finished : Finished σ) (events : List Event)
    (processes : List (Process σ)) (changelogs : List Path) : Prop where
  status : finished.status = .exited 0
  handed : handed processes = changelogs.map (·, .exited 0)
  distinct : changelogs.Nodup
  output : finished.output = told start events
  counted : ∃ earlier, summaries earlier = [] ∧ events = earlier ++
    if changelogs.isEmpty then []
    else [.said (.summary (started "java" processes) (started "mvn" processes)
      (started "curl" processes))]

/-- The program ends with a failure: it has counted nothing, and complains at the very end. -/
structure EndsBadly (start : Start) (finished : Finished σ) (events : List Event)
    (failure : Failure) : Prop where
  status : finished.status = .exited 1
  silent : summaries events = []
  output : finished.output =
    told start events ++ [(.err, Bytes.ofString (complaint start.colored failure))]

/-- What the program leaves is what the run of its arguments comes to. -/
theorem run_accepted {start : Start} {arguments : Arguments}
    (accepted : Reading.ofArguments start.arguments = .run arguments)
    (machine : Machine σ) (view : View) (memory : σ) :
    let came := performed machine arguments view memory
    let finished := CommandLine.run start machine view memory
    finished.disk = came.2.disk ∧ finished.memory = came.2.memory ∧
      (∀ summary, came.1 = .ok summary → finished.status = .exited 0 ∧
        finished.output = told start came.2.events) ∧
      (∀ failure, came.1 = .error failure → finished.status = .exited 1 ∧
        finished.output = told start came.2.events ++
          [(.err, Bytes.ofString (complaint start.colored failure))]) := by
  simp only [CommandLine.run, accepted, performed, told]
  cases (convert (toolchain machine) arguments).perform ⟨view.disk, view.cwd, memory, []⟩ with
  | mk outcome final =>
    cases outcome with
    | ok summary => exact ⟨rfl, rfl, fun _ _ => ⟨rfl, rfl⟩, fun _ never => (by cases never)⟩
    | error failure =>
      refine ⟨rfl, rfl, fun _ never => (by cases never), ?_⟩
      rintro _ ⟨⟩
      exact ⟨rfl, by rw [← report_eq]⟩

/-- Watched, a run comes to the same, and all that is different is that its processes
are written down. -/
theorem performed_watched (machine : Machine σ) (arguments : Arguments) (view : View) (memory : σ) :
    let watched := performed (logged machine) arguments view (memory, [])
    let came := performed machine arguments view memory
    watched.1 = came.1 ∧ watched.2.events = came.2.events ∧ watched.2.disk = came.2.disk ∧
      watched.2.memory = (came.2.memory, processes machine arguments view memory) := by
  obtain ⟨same, agree⟩ := convert_agrees (logged_alike machine) arguments
    ⟨view.disk, view.cwd, (memory, []), []⟩ ⟨view.disk, view.cwd, memory, []⟩ ⟨rfl, rfl, rfl, rfl⟩
  have all : counts true = fun _ => true := by
    funext event
    unfold counts
    split <;> rfl
  have events := agree.events
  rw [all, List.filter_true, List.filter_true] at events
  exact ⟨same, events, agree.disk, Prod.ext agree.memory rfl⟩

/-- The watched program ends as the program does. -/
theorem run_watched {start : Start} {arguments : Arguments}
    (accepted : Reading.ofArguments start.arguments = .run arguments)
    (machine : Machine σ) (view : View) (memory : σ) :
    let finished := CommandLine.run start machine view memory
    CommandLine.run start (logged machine) view (memory, []) =
      ⟨finished.status, finished.output, finished.disk, finished.memory,
        processes machine arguments view memory⟩ := by
  obtain ⟨same, events, disk, left⟩ := performed_watched machine arguments view memory
  obtain ⟨disk', left', succeeds', fails'⟩ :=
    run_accepted accepted (logged machine) view (memory, [])
  obtain ⟨here, remembered, succeeds, fails⟩ := run_accepted accepted machine view memory
  rw [events, same] at succeeds' fails'
  rw [disk] at disk'
  rw [left] at left'
  intro finished
  have ends : (CommandLine.run start (logged machine) view (memory, [])).status = finished.status ∧
      (CommandLine.run start (logged machine) view (memory, [])).output = finished.output := by
    cases outcome : (performed machine arguments view memory).1 with
    | ok summary =>
      obtain ⟨status', output'⟩ := succeeds' summary outcome
      obtain ⟨status, output⟩ := succeeds summary outcome
      exact ⟨status'.trans status.symm, output'.trans output.symm⟩
    | error failure =>
      obtain ⟨status', output'⟩ := fails' failure outcome
      obtain ⟨status, output⟩ := fails failure outcome
      exact ⟨status'.trans status.symm, output'.trans output.symm⟩
  rw [← ends.1, ← ends.2, here, remembered, ← disk', ← left']

/-- However `mvn` ends, the run comes to the same, and so does what it leaves. -/
theorem performed_unjudged {machine' machine : Machine σ} (same : SameButEnding "mvn" machine' machine)
    (arguments : Arguments) (view : View) (memory : σ) :
    let came' := performed machine' arguments view memory
    let came := performed machine arguments view memory
    came'.1 = came.1 ∧
      came'.2.events.filter (counts false) = came.2.events.filter (counts false) ∧
      came'.2.disk = came.2.disk ∧ came'.2.memory = came.2.memory := by
  obtain ⟨outcome, agree⟩ := convert_agrees same.alike arguments
    ⟨view.disk, view.cwd, memory, []⟩ ⟨view.disk, view.cwd, memory, []⟩ ⟨rfl, rfl, rfl, rfl⟩
  exact ⟨outcome, agree.events, agree.disk, agree.memory⟩

/-- The exit code of the program goes by the processes it has started. Whatever the
tree is and whatever the programs do, it is zero exactly if the root can be settled,
`git` ended well, the search came to a list, and each changelog of it was handed to
`java` and converted; else it is one and the program ends with a complaint. The last
thing said after a run that converted something is how many processes there were. How
`mvn` ends makes no difference to anything but the records. -/
theorem exit_code_by_processes (start : Start) {arguments : Arguments}
    (accepted : Reading.ofArguments start.arguments = .run arguments)
    (machine : Machine σ) (view : View) (memory : σ) :
    let finished := CommandLine.run start machine view memory
    let came := performed machine arguments view memory
    let ran := processes machine arguments view memory
    CommandLine.run start (logged machine) view (memory, []) =
        ⟨finished.status, finished.output, finished.disk, finished.memory, ran⟩ ∧
      (finished.status = .exited 0 ↔
        ∃ root changelogs, IsRoot view arguments root ∧ Passed view.cwd root ran changelogs) ∧
      (∀ root changelogs, IsRoot view arguments root → Passed view.cwd root ran changelogs →
        EndsWell start finished came.2.events ran changelogs) ∧
      (finished.status ≠ .exited 0 → ∃ failure, came.1 = .error failure ∧
        EndsBadly start finished came.2.events failure) ∧
      ∀ machine', SameButEnding "mvn" machine' machine →
        let finished' := CommandLine.run start machine' view memory
        let came' := performed machine' arguments view memory
        came'.1 = came.1 ∧
          came'.2.events.filter (counts false) = came.2.events.filter (counts false) ∧
          finished'.status = finished.status ∧ finished'.disk = finished.disk ∧
          finished'.memory = finished.memory := by
  intro finished came ran
  obtain ⟨well, badly⟩ := performed_logged machine arguments view memory
  rw [(performed_watched machine arguments view memory).1] at well badly
  obtain ⟨counted, silent⟩ := performed_events machine arguments view memory
  obtain ⟨disk, left, succeeds, fails⟩ := run_accepted accepted machine view memory
  have passes (root : Path) (changelogs : List Path) (rooted : IsRoot view arguments root)
      (passed : Passed view.cwd root ran changelogs) : ∃ summary, came.1 = .ok summary := by
    cases outcome : came.1 with
    | ok summary => exact ⟨summary, rfl⟩
    | error failure => exact absurd passed (badly failure outcome root changelogs rooted)
  refine ⟨run_watched accepted machine view memory, ⟨fun zero => ?_, ?_⟩, ?_, ?_, ?_⟩
  · cases outcome : came.1 with
    | ok summary =>
      obtain ⟨root, rooted, passed, -⟩ := well summary outcome
      exact ⟨root, _, rooted, passed⟩
    | error failure => cases (fails failure outcome).1.symm.trans zero
  · rintro ⟨root, changelogs, rooted, passed⟩
    obtain ⟨summary, outcome⟩ := passes root changelogs rooted passed
    exact (succeeds summary outcome).1
  · intro root changelogs rooted passed
    obtain ⟨summary, outcome⟩ := passes root changelogs rooted passed
    obtain ⟨root', rooted', passed', given, javas, mvns, curls⟩ := well summary outcome
    obtain rfl : root = root' := rooted.unique rooted'
    obtain rfl := passed.unique passed'
    obtain ⟨git, -, -, found⟩ := passed.guarded
    refine ⟨(succeeds summary outcome).1, given, (DiscoveryExactness.changelogs_found found).1,
      (succeeds summary outcome).2, ?_⟩
    rw [← javas, ← mvns, ← curls]
    exact counted summary outcome
  · intro nonzero
    cases outcome : came.1 with
    | ok summary => exact absurd (succeeds summary outcome).1 nonzero
    | error failure =>
      obtain ⟨status, output⟩ := fails failure outcome
      exact ⟨failure, rfl, status, silent failure outcome, output⟩
  · intro machine' same finished' came'
    obtain ⟨outcome, events, disk', left'⟩ := performed_unjudged same arguments view memory
    obtain ⟨here, remembered, succeeds', fails'⟩ := run_accepted accepted machine' view memory
    refine ⟨outcome, events, ?_, here.trans (disk'.trans disk.symm),
      remembered.trans (left'.trans left.symm)⟩
    cases ended : came.1 with
    | ok summary =>
      exact (succeeds' summary (outcome.trans ended)).1.trans (succeeds summary ended).1.symm
    | error failure =>
      exact (fails' failure (outcome.trans ended)).1.trans (fails failure ended).1.symm

/-- The program is started at the top, for the small project and the jars beside it. -/
def shelfStart : Start where
  arguments := ["--root", "/p", "--artifact-dir", "/jars"].map Bytes.ofString
  filter? := none
  colored := false
  clock := ""

/-- What these arguments ask for. -/
def shelfArguments : Arguments :=
  ⟨some (Path.ofString "/p"), some (Path.ofString "/jars")⟩

theorem shelf_performed :
    (performed contentMachine shelfArguments shelfWorld.view ()).1 =
      .ok ⟨RunAccounting.smallChangelogs, 2, 0⟩ := by
  let settings := shelfSettings (Path.ofString "/jars")
  have settled : Settings.settle shelfWorld.view shelfArguments.root?
      shelfArguments.artifactDirectory? = .ok settings := rfl
  have there : RunAccounting.isThere [] settings (⟨shelfDisk, ()⟩ : Moment Unit) "4.1" = true := by
    decide
  obtain ⟨final, went, -, -⟩ := run_performs (shelf_course there)
    (shelfWorld.add [.aside (.record (settingsRecord settings))]) rfl rfl
  have started : (⟨shelfWorld.view.disk, shelfWorld.view.cwd, (), []⟩ : World Unit) = shelfWorld := rfl
  rw [performed, started, perform_convert, settled]
  dsimp only
  rw [went]

/-- The small project is converted: `java` ends well for each changelog, and the last thing said
counts three of them, two manifests and no download. -/
theorem shelf_exit_code :
    Reading.ofArguments shelfStart.arguments = .run shelfArguments ∧
      (CommandLine.run shelfStart contentMachine shelfWorld.view ()).status = .exited 0 ∧
      handed (processes contentMachine shelfArguments shelfWorld.view ()) =
        RunAccounting.smallChangelogs.map (·, .exited 0) ∧
      ∃ earlier, (performed contentMachine shelfArguments shelfWorld.view ()).2.events =
        earlier ++ [.said (.summary 3 2 0)] := by
  have accepted : Reading.ofArguments shelfStart.arguments = .run shelfArguments := by decide
  obtain ⟨-, -, well, -, -⟩ :=
    exit_code_by_processes shelfStart accepted contentMachine shelfWorld.view ()
  obtain ⟨root, rooted, passed, -, javas, mvns, curls⟩ :=
    (performed_logged contentMachine shelfArguments shelfWorld.view ()).1 _
      ((performed_watched contentMachine shelfArguments shelfWorld.view ()).1.trans shelf_performed)
  have ends := well root _ rooted passed
  obtain ⟨earlier, -, events⟩ := ends.counted
  rw [← javas, ← mvns, ← curls] at events
  exact ⟨accepted, ends.status, ends.handed, earlier, events⟩

end ChangelogSql.ExitCode
