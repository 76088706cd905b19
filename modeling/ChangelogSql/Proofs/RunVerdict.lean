import ChangelogSql.Proofs.ProcessLog

/-! How a run ends, told by the processes it has started. What the calls of a run hand
to the converter stops at the first block that fails; so the run goes through exactly
if `git` ended well, the search came to a list, and `java` was handed each changelog of
it and ended well every time. -/
namespace ChangelogSql.RunVerdict
open Files Conversion CallAccounts ResolutionMemo RunCourse
open Programs Toolchain.Installed ProcessLog

variable {σ : Type}

section Calls

variable {tools : Toolchain σ} {cwd : Location} {settings : Settings} {now after : Moment σ}
variable {calls : List (Call σ)} {earlier done : List Block} {changelog : Path}
variable {changelogs : List Path} {root : Path} {known : Path → Option String}

/-- The call is not the one about the working tree. -/
def Unguarded (call : Call σ) : Prop :=
  (command call.request).program ≠ "git"

theorem resolving_calls {outcome : Except Failure Resolution}
    (resolving : Resolving tools cwd root known changelog now calls outcome after) :
    handings calls = [] ∧ (∀ call ∈ calls, Unguarded call) ∧
      (outcome.toBool = true → ∀ call ∈ calls, answers call.exchange = true) := by
  cases resolving <;>
    simp [handings, handing?, answers, Except.toBool, Unguarded, command, mvnList, Call.request,
      Exchange.request]

theorem supplying_calls {jar : Jar} {outcome : Except Failure Unit}
    (supplying : Supplying tools cwd jar now calls outcome after) :
    handings calls = [] ∧ (∀ call ∈ calls, Unguarded call) ∧
      (outcome.toBool = true → ∀ call ∈ calls, answers call.exchange = true) := by
  cases supplying <;>
    simp [handings, handing?, answers, Except.toBool, Unguarded, command, curlDownload, Call.request,
      Exchange.request]

theorem handings_append (calls more : List (Call σ)) :
    handings (calls ++ more) = handings calls ++ handings more :=
  List.filterMap_append

/-- Where a jar is supplied, the changelog is handed over, and that is the end of it. -/
private theorem conversion_calls {jar : Jar} {more : List (Call σ)} {resolved supplied : Moment σ}
    (answer : Except Failure Bool)
    (resolving : Resolving tools cwd root known changelog now calls (.ok found) resolved)
    (supplying : Supplying tools cwd jar resolved more (.ok ()) supplied) :
    let all := calls ++ (more ++ [⟨supplied, .convert jar.path changelog answer, after⟩])
    (∀ call ∈ all, Unguarded call) ∧
      (answer.toBool = true → ∀ call ∈ all, answers call.exchange = true) ∧
      handings all = (handing? (.convert jar.path changelog answer)).toList := by
  intro all
  obtain ⟨none, others, answered⟩ := resolving_calls resolving
  obtain ⟨never, more, supplied⟩ := supplying_calls supplying
  simp only [all, List.forall_mem_append, List.forall_mem_singleton, handings_append, none, never,
    List.nil_append]
  refine ⟨⟨others, more, ?_⟩, fun given => ⟨answered rfl, supplied rfl, given⟩, ?_⟩
  · simp [Unguarded, command, javaConvert, Call.request, Exchange.request]
  · simp only [handings, List.filterMap_cons, List.filterMap_nil]
    cases handing? (.convert jar.path changelog answer) <;> rfl

/-- Each changelog is handed to the converter once at most, at the end of its block. -/
theorem converting_calls {outcome : Except Failure Block}
    (converting : Converting tools cwd settings earlier changelog now calls outcome after) :
    (∀ call ∈ calls, Unguarded call) ∧
      (outcome.toBool = true →
        handings calls = [(changelog, true)] ∧ ∀ call ∈ calls, answers call.exchange = true) ∧
      (outcome.toBool = false → handings calls = [] ∨ handings calls = [(changelog, false)]) := by
  cases converting with
  | unresolved resolving =>
    obtain ⟨none, others, -⟩ := resolving_calls resolving
    exact ⟨others, nofun, fun _ => .inl none⟩
  | unsupplied resolving supplying =>
    obtain ⟨none, others, -⟩ := resolving_calls resolving
    obtain ⟨never, more, -⟩ := supplying_calls supplying
    exact ⟨List.forall_mem_append.mpr ⟨others, more⟩, nofun,
      fun _ => .inl (by rw [handings_append, none, never, List.append_nil])⟩
  | refused resolving supplying =>
    obtain ⟨others, -, none⟩ := conversion_calls (.error _) resolving supplying
    exact ⟨others, nofun, fun _ => .inl none⟩
  | unconverted resolving supplying =>
    obtain ⟨others, -, once⟩ := conversion_calls (.ok false) resolving supplying
    exact ⟨others, nofun, fun _ => .inr once⟩
  | converted resolving supplying =>
    obtain ⟨others, answered, once⟩ := conversion_calls (.ok true) resolving supplying
    exact ⟨others, fun _ => ⟨once, answered rfl⟩, nofun⟩

/-- Up to the first block that fails, every changelog is handed over and converted. -/
theorem blocks_calls {failure? : Option Failure}
    (blocks : Blocks tools cwd settings earlier changelogs now calls done failure? after) :
    (∀ call ∈ calls, Unguarded call) ∧
      (failure? = none → handings calls = changelogs.map (·, true) ∧
        ∀ call ∈ calls, answers call.exchange = true) ∧
      (failure?.isSome = true → ∃ before failing later, changelogs = before ++ failing :: later ∧
        (handings calls = before.map (·, true) ∨
          handings calls = before.map (·, true) ++ [(failing, false)])) := by
  induction blocks with
  | done => exact ⟨by simp, fun _ => ⟨rfl, by simp⟩, nofun⟩
  | failed converting =>
    obtain ⟨others, -, failing⟩ := converting_calls converting
    exact ⟨others, nofun, fun _ => ⟨[], _, _, rfl, failing rfl⟩⟩
  | converted converting _ ih =>
    obtain ⟨others, through, -⟩ := converting_calls converting
    obtain ⟨more, finished, aborted⟩ := ih
    obtain ⟨once, answered⟩ := through rfl
    refine ⟨List.forall_mem_append.mpr ⟨others, more⟩, fun none => ?_, fun some => ?_⟩
    · obtain ⟨all, answered'⟩ := finished none
      exact ⟨by rw [handings_append, once, all]; rfl,
        List.forall_mem_append.mpr ⟨answered, answered'⟩⟩
    · obtain ⟨before, failing, later, rfl, handed⟩ := aborted some
      refine ⟨_ :: before, failing, later, rfl, ?_⟩
      rw [handings_append, once]
      exact handed.imp (congrArg _) (congrArg _)

end Calls

/-- What has to go well, by the processes that were started: `git` is one of them and
ended well, the disk as `git` left it has these changelogs, and each of them was handed
to `java` as often as it is listed, and converted every time. -/
structure Passed (cwd : Location) (root : Path) (processes : List (Process σ))
    (changelogs : List Path) : Prop where
  guarded : ∃ git, processes.filter (·.runs "git") = [git] ∧ git.finished.status = .exited 0 ∧
    (Discovery.changelogs ⟨git.finished.disk, cwd⟩ root).1 = .ok changelogs
  converted : ∀ changelog ∈ changelogs, (handed processes).filter (·.1 = changelog) =
    List.replicate (changelogs.count changelog) (changelog, .exited 0)

section Log

variable {machine : Machine σ} {cwd : Location} {settings : Settings} {root : Path}
variable {now after guarded : Moment (Logbook σ)} {calls : List (Call (Logbook σ))}
variable {changelogs : List Path}

@[simp] theorem success_iff {status : Status} : status.success = true ↔ status = .exited 0 := by
  simp [Status.success]

/-- The converter has succeeded each time if every process has. -/
theorem handed_through {entries : List (Path × Status)}
    (same : entries.map judged = changelogs.map (·, true)) :
    entries = changelogs.map (·, .exited 0) := by
  induction entries generalizing changelogs with
  | nil => simpa using same.symm
  | cons entry rest ih =>
    cases changelogs with
    | nil => simp at same
    | cons changelog later =>
      simp only [List.map_cons, List.cons.injEq, judged, Prod.mk.injEq, success_iff] at same
      obtain ⟨⟨named, ended⟩, others⟩ := same
      rw [ih others, List.map_cons, ← named, ← ended]

/-- If the calls stop at a changelog, `java` was not handed it as often as it is listed
or did not convert it. -/
theorem not_converted {entries : List (Path × Status)} {before later : List Path} {failing : Path}
    (same : entries.map judged = before.map (·, true) ∨
      entries.map judged = before.map (·, true) ++ [(failing, false)]) :
    entries.filter (·.1 = failing) ≠
      List.replicate ((before ++ failing :: later).count failing) (failing, .exited 0) := by
  intro all
  have front : ((before.map (·, true)).filter (·.1 = failing)).length = before.count failing := by
    rw [List.filter_map, List.length_map, List.count_eq_length_filter]
    rfl
  have seen : (entries.map judged).filter (·.1 = failing) =
      List.replicate ((before ++ failing :: later).count failing) (failing, true) := by
    rw [List.filter_map]
    exact (congrArg (List.map judged) all).trans List.map_replicate
  rw [List.count_append, List.count_cons_self] at seen
  rcases same with same | same
  · have short := congrArg List.length (same ▸ seen)
    rw [front, List.length_replicate] at short
    omega
  · have last : (failing, false) ∈ (entries.map judged).filter (·.1 = failing) := by
      simp [same]
    rw [seen] at last
    exact Bool.false_ne_true (congrArg Prod.snd (List.eq_of_mem_replicate last))

/-- A log that begins with a run tells what its calls handed over, and how often each
program was started. -/
theorem log_of_calls (chain : Chain (toolchain (logged machine)) cwd now calls after)
    (fresh : now.memory.2 = []) :
    (handed after.memory.2).map judged = handings calls ∧
      ∀ program, started program after.memory.2 = calls.countP fun call =>
        (command call.request).program = program && answers call.exchange := by
  obtain ⟨pieces, traced, written⟩ := chain_traced chain
  rw [written, fresh, List.nil_append]
  exact ⟨handed_eq traced, started_eq traced⟩

/-- The first process is `git`, and there is no other. -/
theorem guard_logged {answer : Except Failure Bool}
    (chain : Chain (toolchain (logged machine)) cwd now
      (⟨now, .workingTree root answer, guarded⟩ :: calls) after)
    (fresh : now.memory.2 = []) (others : ∀ call ∈ calls, Unguarded call) :
    (answer.toBool = false ∧ after.memory.2.filter (·.runs "git") = []) ∨
    ∃ git, after.memory.2.filter (·.runs "git") = [git] ∧
      answer = .ok git.finished.status.success ∧ guarded.disk = git.finished.disk := by
  cases chain with
  | next answered more =>
    obtain ⟨added, traced, first⟩ := answered_traced answered
    obtain ⟨pieces, rest, written⟩ := chain_traced more
    have none : pieces.flatten.filter (·.runs "git") = [] := by
      have never := started_eq rest "git"
      rw [List.countP_eq_zero.mpr fun call made => by
        simp only [show (command call.request).program ≠ "git" from others call made, decide_false,
          Bool.false_and, Bool.false_eq_true, not_false_eq_true]] at never
      exact List.filter_eq_nil_iff.mpr (List.countP_eq_zero.mp never)
    rw [written, first, fresh, List.nil_append, List.filter_append, none, List.append_nil]
    cases traced with
    | unstarted without => exact .inl ⟨without, rfl⟩
    | @started git executes tells left =>
      refine .inr ⟨git, ?_, tells, congrArg Moment.disk left⟩
      have called : git.runs "git" = true := executes.program
      simp [called]

theorem Passed.unique {processes : List (Process σ)} {others : List Path}
    (passed : Passed cwd root processes changelogs) (passed' : Passed cwd root processes others) :
    changelogs = others := by
  obtain ⟨git, only, -, found⟩ := passed.guarded
  obtain ⟨git', only', -, found'⟩ := passed'.guarded
  obtain rfl : git = git' := by simpa using only.symm.trans only'
  exact Except.ok.inj (found.symm.trans found')

/-- A run in which `git` ended well has found what it was left to find. -/
theorem Passed.found {processes : List (Process σ)} {git : Process σ}
    {outcome : Except Failure (List Path)} (passed : Passed cwd root processes changelogs)
    (only : processes.filter (·.runs "git") = [git])
    (discovered : (Discovery.changelogs ⟨git.finished.disk, cwd⟩ root).1 = outcome) :
    git.finished.status = .exited 0 ∧ outcome = .ok changelogs := by
  obtain ⟨git', only', ended, found⟩ := passed.guarded
  obtain rfl : git = git' := by simpa using only.symm.trans only'
  exact ⟨ended, discovered.symm.trans found⟩

theorem count_listings {calls : List (Call σ)} (answered : ∀ call ∈ calls, answers call.exchange = true) :
    (calls.countP fun call => (command call.request).program = "mvn" && answers call.exchange) =
      calls.countP isListing := by
  refine List.countP_congr fun call made => ?_
  rw [answered call made, Bool.and_true]
  obtain ⟨before, exchange, after⟩ := call
  cases exchange <;>
    simp [isListing, Call.request, Exchange.request, command, gitStatus, mvnList, curlDownload, javaConvert]

theorem count_downloads {calls : List (Call σ)} (answered : ∀ call ∈ calls, answers call.exchange = true) :
    (calls.countP fun call => (command call.request).program = "curl" && answers call.exchange) =
      calls.countP isDownload := by
  refine List.countP_congr fun call made => ?_
  rw [answered call made, Bool.and_true]
  obtain ⟨before, exchange, after⟩ := call
  cases exchange <;>
    simp [isDownload, Call.request, Exchange.request, command, gitStatus, mvnList, curlDownload, javaConvert]

theorem count_handings (calls : List (Call σ)) :
    (calls.countP fun call => (command call.request).program = "java" && answers call.exchange) =
      (handings calls).length := by
  rw [handings, List.length_filterMap_eq_countP]
  refine List.countP_congr fun call _ => ?_
  obtain ⟨before, exchange, after⟩ := call
  cases exchange with
  | convert jar changelog answer => cases answer <;> rfl
  | _ => simp [handing?, Call.request, Exchange.request, command, gitStatus, mvnList, curlDownload]

/-- How a run ends, by the processes that it has started: well exactly if everything
went well that had to, and then its summary counts the processes. -/
theorem course_verdict {outcome : Except Failure Summary}
    (course : Course (toolchain (logged machine)) cwd settings now calls outcome after)
    (fresh : now.memory.2 = []) :
    (∀ summary, outcome = .ok summary → Passed cwd settings.root after.memory.2 summary.converted ∧
      handed after.memory.2 = summary.converted.map (·, .exited 0) ∧
      summary.converted.length = started "java" after.memory.2 ∧
      summary.manifests = started "mvn" after.memory.2 ∧
      summary.downloads = started "curl" after.memory.2) ∧
    (∀ failure changelogs, outcome = .error failure →
      ¬ Passed cwd settings.root after.memory.2 changelogs) := by
  obtain ⟨final, -, account, rfl⟩ := run_performs course ⟨now.disk, cwd, now.memory, []⟩ rfl rfl
  have chain : Chain (toolchain (logged machine)) cwd now calls (momentOf final) := account.chain
  obtain ⟨told, times⟩ := log_of_calls chain fresh
  cases course with
  | refused asked =>
    refine ⟨nofun, fun failure changelogs _ passed => ?_⟩
    obtain ⟨git, only, -, -⟩ := passed.guarded
    rcases guard_logged chain fresh (by simp) with ⟨-, none⟩ | ⟨_, -, never, -⟩
    · simp [none] at only
    · cases never
  | outside asked =>
    refine ⟨nofun, fun failure changelogs _ passed => ?_⟩
    obtain ⟨git, only, ended, -⟩ := passed.guarded
    rcases guard_logged chain fresh (by simp) with ⟨-, none⟩ | ⟨git', only', judged, -⟩
    · simp [none] at only
    · obtain rfl : git = git' := by simpa using only.symm.trans only'
      simp [ended, Status.success] at judged
  | undiscovered asked discovered =>
    refine ⟨nofun, fun failure changelogs _ passed => ?_⟩
    rcases guard_logged chain fresh (by simp) with ⟨never, -⟩ | ⟨git, only, -, left⟩
    · cases never
    · rw [Moment.view, left] at discovered
      cases (passed.found only discovered).2
  | aborted asked discovered blocks =>
    refine ⟨nofun, fun failure changelogs _ passed => ?_⟩
    obtain ⟨others, -, aborted⟩ := blocks_calls blocks
    rcases guard_logged chain fresh others with ⟨never, -⟩ | ⟨git, only, -, left⟩
    · cases never
    · rw [Moment.view, left] at discovered
      obtain rfl := Except.ok.inj (passed.found only discovered).2
      obtain ⟨before, failing, later, rfl, handed⟩ := aborted rfl
      exact not_converted (told ▸ handed) (passed.converted failing (by simp))
  | @finished guarded changelogs rest _ _ asked discovered blocks =>
    refine ⟨?_, nofun⟩
    rintro _ ⟨⟩
    obtain ⟨others, finished, -⟩ := blocks_calls blocks
    obtain ⟨all, answered⟩ := finished rfl
    have given := handed_through (told.trans all)
    rcases guard_logged chain fresh others with ⟨never, -⟩ | ⟨git, only, ended, left⟩
    · cases never
    rw [Moment.view, left] at discovered
    let guard : Call (Logbook σ) := ⟨now, .workingTree settings.root (.ok true), guarded⟩
    have every : ∀ call ∈ guard :: rest, answers call.exchange = true :=
      List.forall_mem_cons.mpr ⟨rfl, answered⟩
    refine ⟨⟨⟨git, only, success_iff.mp (Except.ok.inj ended).symm, discovered⟩, ?_⟩, given, ?_, ?_, ?_⟩
    · intro changelog _
      rw [given, List.filter_map]
      exact (congrArg _ (List.filter_beq changelog)).trans List.map_replicate
    · rw [times, count_handings]
      exact (congrArg List.length all).trans (List.length_map _) |>.symm
    · rw [times, count_listings every]
      rfl
    · rw [times, count_downloads every]
      rfl

end Log

end ChangelogSql.RunVerdict
