import ChangelogSql.Proofs.RunAccounting
import ChangelogSql.Toolchain.Installed

/-! The processes of a run. A machine is made to write down each process that it
starts, and is the same otherwise. A call then adds to what is written down the
one process it asks for, or nothing where that could not be started; which of the
two it was, and how the process ended, is all that the answer goes by. -/
namespace ChangelogSql.ProcessLog
open Files Programs CallAccounts PathComponents RunAccounting Toolchain.Installed

variable {σ α β : Type}

/-- A process that was started, and what it had left when it ended. -/
structure Process (σ : Type) where
  invocation : Invocation
  finished : Finished σ

/-- What a machine remembers that writes down its processes. -/
abbrev Logbook (σ : Type) := σ × List (Process σ)

/-- The process has ended and is written down after those before it. -/
def Process.noted (process : Process σ) (before : List (Process σ)) : Finished (Logbook σ) where
  status := process.finished.status
  output := process.finished.output
  disk := process.finished.disk
  memory := (process.finished.memory, before ++ [process])

/-- The machine, writing down each process that it starts. -/
def logged (machine : Machine σ) : Machine (Logbook σ) where
  searchPath := machine.searchPath
  start invocation view memory :=
    (machine.start invocation view memory.1).map fun finished =>
      Process.noted ⟨invocation, finished⟩ memory.2

namespace Process

/-- The process runs the program of this name. -/
def runs (process : Process σ) (program : String) : Bool :=
  process.invocation.program.fileName? = some (Bytes.ofString program)

/-- The process runs this command. -/
structure Executes (process : Process σ) (command : Command) : Prop where
  program : process.runs command.program = true
  arguments : process.invocation.arguments = command.arguments
  directory : process.invocation.directory? = command.directory?

/-- The changelog that `java` was handed, with how it ended. -/
def handed? (process : Process σ) : Option (Path × Status) :=
  if process.runs "java" then
    process.invocation.arguments.getLast?.map fun changelog => (⟨changelog⟩, process.finished.status)
  else none

end Process

/-- The changelogs that were handed to `java`, in order, each with how that ended. -/
def handed (processes : List (Process σ)) : List (Path × Status) :=
  processes.filterMap Process.handed?

/-- A changelog that was handed over, with whether it was converted. -/
def judged (entry : Path × Status) : Path × Bool :=
  (entry.1, entry.2.success)

/-- How often a program was started. -/
def started (program : String) (processes : List (Process σ)) : Nat :=
  processes.countP (·.runs program)

/-- The command that a request is made with. -/
def command : Request → Command
  | .workingTree root => gitStatus root
  | .dependencies project => mvnList project
  | .download url destination => curlDownload url destination
  | .convert jar changelog => javaConvert jar changelog

/-- What an answer makes of a process: only `mvn` is not judged by how it ended. -/
def Tells (finished : Finished σ) : Exchange → Prop
  | .workingTree _ answer => answer = .ok finished.status.success
  | .dependencies _ answer => answer = .ok (Text.Terminal.captured (Command.written finished))
  | .download _ _ answer =>
    answer = .ok (if finished.status.success then .fetched
      else .failed (Text.Terminal.captured (Command.written finished)))
  | .convert _ _ answer => answer = .ok finished.status.success

/-- There is an answer to the request, good or bad. -/
def answers : Exchange → Bool
  | .workingTree _ answer | .convert _ _ answer => answer.toBool
  | .dependencies _ answer => answer.toBool
  | .download _ _ answer => answer.toBool

/-- What a call adds to the processes that are written down. -/
inductive Traced (call : Call (Logbook σ)) : List (Process σ) → Prop
  | unstarted (without : answers call.exchange = false) (still : call.after = call.before) :
      Traced call []
  | started {process : Process σ} (executes : process.Executes (command call.request))
      (tells : Tells process.finished call.exchange)
      (left : call.after =
        ⟨process.finished.disk, process.finished.memory, call.before.memory.2 ++ [process]⟩) :
      Traced call [process]

/-- A name that is looked for along the search path. -/
structure Plain (program : String) : Prop where
  name : isName (Bytes.ofString program) = true
  relative : (Path.ofString program).isAbsolute = false
  single : ¬ 1 < (Path.ofString program).components.length

theorem command_plain (request : Request) : Plain (command request).program := by
  cases request with
  | workingTree => exact (⟨by decide, by decide, by decide⟩ : Plain "git")
  | dependencies => exact (⟨by decide, by decide, by decide⟩ : Plain "mvn")
  | download => exact (⟨by decide, by decide, by decide⟩ : Plain "curl")
  | convert => exact (⟨by decide, by decide, by decide⟩ : Plain "java")

/-- What is started under a plain name is called so. -/
theorem located_name {program : String} (plain : Plain program)
    (found : locate? searchPath view program = some file) :
    file.fileName? = some (Bytes.ofString program) := by
  have member := List.mem_of_find?_eq_some found
  simp only [candidates, plain.relative, Bool.false_eq_true, ↓reduceIte, plain.single,
    List.mem_map] at member
  obtain ⟨directory, -, rfl⟩ := member
  exact fileName_join directory plain.name

/-- A launch starts nothing, or one process, which is written down. -/
inductive Launched (command : Command) (before : List (Process σ)) (read : Finished σ → α) :
    Launch (Logbook σ) α → Prop
  | unstarted (failure : LaunchFailure) (records : List Record) :
      Launched command before read ⟨.error failure, none, records⟩
  | started (process : Process σ) (executes : process.Executes command) (records : List Record) :
      Launched command before read
        ⟨.ok (read process.finished), some (process.noted before), records⟩

section Launching

variable {command : Command} {machine : Machine σ} {view : View} {memory : Logbook σ}

/-- The launch of a program that is there, with a process in front of it for what it leaves. -/
private theorem launch_cases (machine : Machine σ) (view : View) (memory : Logbook σ)
    (plain : Plain command.program) (awaitsOutput : Bool) :
    (∃ failure records,
      command.launch awaitsOutput (logged machine) view memory = ⟨.error failure, none, records⟩) ∨
    ∃ (process : Process σ) (records : List Record), process.Executes command ∧
      command.launch awaitsOutput (logged machine) view memory =
        ⟨.ok (process.noted memory.2), some (process.noted memory.2), records⟩ := by
  unfold Command.launch
  cases found : locate? (logged machine).searchPath view command.program with
  | none => exact .inl ⟨_, _, rfl⟩
  | some file =>
    dsimp only
    let invocation : Invocation :=
      ⟨file, file.bytes, command.arguments, command.directory?, awaitsOutput⟩
    cases started : machine.start invocation view memory.1 with
    | error fault =>
      have failed : (logged machine).start invocation view memory = .error fault := by
        simp only [logged, started, Except.map]
      rw [failed]
      exact .inl ⟨_, _, rfl⟩
    | ok finished =>
      have ended : (logged machine).start invocation view memory =
          .ok (Process.noted ⟨invocation, finished⟩ memory.2) := by
        simp only [logged, started, Except.map]
      rw [ended]
      refine .inr ⟨⟨invocation, finished⟩, _, ⟨?_, rfl, rfl⟩, rfl⟩
      simpa [Process.runs] using located_name plain found

theorem status_launched (plain : Plain command.program) :
    Launched command memory.2 (·.status) (command.status (logged machine) view memory) := by
  unfold Command.status
  rcases launch_cases machine view memory plain false with
    ⟨failure, records, same⟩ | ⟨process, records, executes, same⟩
  · rw [same]
    exact .unstarted failure records
  · rw [same]
    exact .started process executes records

/-- Captured, a process is known by how it ended and by its output as one text. -/
theorem capture_launched (plain : Plain command.program) :
    Launched command memory.2
      (fun finished => ⟨finished.status, Text.Terminal.captured (Command.written finished)⟩)
      (command.capture (logged machine) view memory) := by
  unfold Command.capture
  rcases launch_cases machine view memory plain true with
    ⟨failure, records, same⟩ | ⟨process, records, executes, same⟩
  · simp only [same]
    exact .unstarted failure records
  · simp only [same]
    exact .started process executes _

/-- A reply goes by the launch behind it. -/
theorem gives_launched {launch : Launch (Logbook σ) α} {read : Finished σ → α} {answer : α → β}
    {notes : α → List Record} {given : Except Failure β}
    (launched : Launched command memory.2 read launch)
    (gives : Gives (reply view memory shared launch answer notes) given after) :
    (∃ failure, given = .error failure ∧ after = ⟨view.disk, memory⟩) ∨
    ∃ process : Process σ, process.Executes command ∧
      given = .ok (answer (read process.finished)) ∧
      after = ⟨process.finished.disk, process.finished.memory, memory.2 ++ [process]⟩ := by
  obtain ⟨disk, book⟩ := after
  obtain ⟨same, left, remembered⟩ := gives
  cases launched with
  | unstarted failure records =>
    obtain rfl := same
    obtain rfl := left
    obtain rfl := remembered
    exact .inl ⟨_, rfl, rfl⟩
  | started process executes records =>
    obtain rfl := same
    obtain rfl := left
    obtain rfl := remembered
    exact .inr ⟨process, executes, rfl, rfl⟩

end Launching

/-- A call of the machine's programs adds one process to those that are written
down, or none. -/
theorem answered_traced {machine : Machine σ} {cwd : Location} {before after : Moment (Logbook σ)}
    (answered : Answered (toolchain (logged machine)) cwd before exchange after) :
    ∃ added, Traced ⟨before, exchange, after⟩ added ∧
      after.memory.2 = before.memory.2 ++ added := by
  cases exchange with
  | workingTree root answer =>
    simp only [Answered, toolchain, workingTree] at answered
    rcases gives_launched (status_launched (command_plain (.workingTree root))) answered with
      ⟨failure, rfl, rfl⟩ | ⟨process, executes, rfl, rfl⟩
    · exact ⟨[], .unstarted rfl rfl, (List.append_nil _).symm⟩
    · exact ⟨[process], .started executes rfl rfl, rfl⟩
  | dependencies project answer =>
    simp only [Answered, toolchain, dependencies] at answered
    rcases gives_launched (capture_launched (command_plain (.dependencies project))) answered with
      ⟨failure, rfl, rfl⟩ | ⟨process, executes, rfl, rfl⟩
    · exact ⟨[], .unstarted rfl rfl, (List.append_nil _).symm⟩
    · exact ⟨[process], .started executes rfl rfl, rfl⟩
  | download url destination answer =>
    simp only [Answered, toolchain, download] at answered
    rcases gives_launched (capture_launched (command_plain (.download url destination))) answered with
      ⟨failure, rfl, rfl⟩ | ⟨process, executes, rfl, rfl⟩
    · exact ⟨[], .unstarted rfl rfl, (List.append_nil _).symm⟩
    · exact ⟨[process], .started executes rfl rfl, rfl⟩
  | convert jar changelog answer =>
    simp only [Answered, toolchain, convert] at answered
    rcases gives_launched (status_launched (command_plain (.convert jar changelog))) answered with
      ⟨failure, rfl, rfl⟩ | ⟨process, executes, rfl, rfl⟩
    · exact ⟨[], .unstarted rfl rfl, (List.append_nil _).symm⟩
    · exact ⟨[process], .started executes rfl rfl, rfl⟩

/-- What a stretch of a run adds to the processes that are written down is what its
calls add, one after the other. -/
theorem chain_traced {machine : Machine σ} {cwd : Location} {before after : Moment (Logbook σ)}
    {calls : List (Call (Logbook σ))}
    (chain : Chain (toolchain (logged machine)) cwd before calls after) :
    ∃ pieces, List.Forall₂ Traced calls pieces ∧
      after.memory.2 = before.memory.2 ++ pieces.flatten := by
  induction chain with
  | none => exact ⟨[], .nil, by simp⟩
  | next answered _ ih =>
    obtain ⟨added, traced, written⟩ := answered_traced answered
    obtain ⟨pieces, others, more⟩ := ih
    exact ⟨added :: pieces, .cons traced others, by rw [more, written]; simp⟩

section Tracing

variable {process : Process σ} {calls : List (Call (Logbook σ))} {pieces : List (List (Process σ))}

theorem Process.Executes.runs_iff {command : Command} (executes : process.Executes command)
    (program : String) : process.runs program = decide (command.program = program) := by
  have own : process.invocation.program.fileName? = some (Bytes.ofString command.program) := by
    simpa [Process.runs] using executes.program
  simp only [Process.runs, own, Option.some.injEq, ofString_injective.eq_iff]

theorem answers_of_tells {call : Call (Logbook σ)}
    (tells : Tells process.finished call.exchange) : answers call.exchange = true := by
  cases shape : call.exchange <;> simp only [shape, Tells] at tells <;> subst tells <;> rfl

/-- A program is started once for each call that asks for it and is answered. -/
theorem started_eq (traced : List.Forall₂ Traced calls pieces) (program : String) :
    started program pieces.flatten = calls.countP fun call =>
      (command call.request).program = program && answers call.exchange := by
  induction traced with
  | nil => rfl
  | cons first _ ih =>
    simp only [started, List.flatten_cons, List.countP_append, List.countP_cons] at ih ⊢
    rw [ih, Nat.add_comm]
    congr 1
    cases first with
    | unstarted without => simp [without]
    | started executes tells =>
      simp [executes.runs_iff, answers_of_tells tells]

/-- The changelog a call hands to the converter, and whether it succeeded. -/
def handing? : Exchange → Option (Path × Bool)
  | .convert _ changelog (.ok success) => some (changelog, success)
  | _ => none

/-- What the calls hand to the converter, in order. -/
def handings (calls : List (Call σ)) : List (Path × Bool) :=
  calls.filterMap fun call => handing? call.exchange

private theorem traced_handed {call : Call (Logbook σ)} {added : List (Process σ)}
    (traced : Traced call added) :
    (handed added).map judged = (handing? call.exchange).toList := by
  obtain ⟨before, exchange, after⟩ := call
  cases traced with
  | unstarted without =>
    cases exchange with
    | convert jar changelog answer =>
      cases answer with
      | error => rfl
      | ok => cases without
    | _ => rfl
  | @started process executes tells =>
    have called := executes.runs_iff "java"
    have last := congrArg List.getLast? executes.arguments
    cases exchange with
    | convert jar changelog answer =>
      obtain rfl := tells
      simp only [Call.request, Exchange.request, command, javaConvert, decide_true] at called last
      simp [handed, Process.handed?, judged, called, last, handing?]
    | _ =>
      simp only [Call.request, Exchange.request, command, gitStatus, mvnList, curlDownload] at called
      simp [handed, Process.handed?, called, handing?]

/-- What `java` was handed is what the calls say. -/
theorem handed_eq (traced : List.Forall₂ Traced calls pieces) :
    (handed pieces.flatten).map judged = handings calls := by
  induction traced with
  | nil => rfl
  | @cons call added calls _ first _ ih =>
    have one := traced_handed first
    have front : handings (call :: calls) = (handing? call.exchange).toList ++ handings calls := by
      simp only [handings, List.filterMap_cons]
      cases handing? call.exchange <;> rfl
    rw [front, ← one, ← ih]
    simp only [handed, List.flatten_cons, List.filterMap_append, List.map_append]

end Tracing

end ChangelogSql.ProcessLog
