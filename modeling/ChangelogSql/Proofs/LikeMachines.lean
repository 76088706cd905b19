import ChangelogSql.Proofs.MirroredRun
import ChangelogSql.Proofs.ProcessLog

/-! What a run does not notice of its machine. It does not notice that its processes
are written down. Nor does it notice how `mvn` ends: what `mvn` has written and done
is the same, and so is everything that follows, but for the records. -/
namespace ChangelogSql.LikeMachines
open Files Programs MirroredRun ProcessLog Toolchain.Installed CommandLine

variable {σ τ α : Type}

/-- A process leaves the same on two machines. How it ended counts only where it is judged. -/
inductive Alike (forget : τ → σ) (judged : Bool) :
    Except Fault (Finished τ) → Except Fault (Finished σ) → Prop
  | failed (fault : Fault) : Alike forget judged (.error fault) (.error fault)
  | ended {finished' : Finished τ} {finished : Finished σ}
      (status : judged = true → finished'.status = finished.status)
      (output : finished'.output = finished.output) (disk : finished'.disk = finished.disk)
      (memory : forget finished'.memory = finished.memory) :
      Alike forget judged (.ok finished') (.ok finished)

/-- The file is called like a program. -/
def isCalled (program : String) (file : Path) : Bool :=
  file.fileName? = some (Bytes.ofString program)

/-- Two machines on which every process leaves the same. If they are not strictly alike, `mvn`
may end differently. -/
structure AlikeMachines (forget : τ → σ) (strict : Bool) (machine' : Machine τ)
    (machine : Machine σ) : Prop where
  searchPath : machine'.searchPath = machine.searchPath
  start : ∀ invocation view memory, Alike forget (strict || !isCalled "mvn" invocation.program)
    (machine'.start invocation view memory) (machine.start invocation view (forget memory))

/-- The event counts in the comparison: any where it is strict, and else all but records. -/
def counts (strict : Bool) : Event → Bool
  | .aside (.record _) => strict
  | _ => true

/-- Two worlds that agree on all that counts. -/
structure Agree (forget : τ → σ) (strict : Bool) (world' : World τ) (world : World σ) : Prop where
  disk : world'.disk = world.disk
  cwd : world'.cwd = world.cwd
  memory : forget world'.memory = world.memory
  events : world'.events.filter (counts strict) = world.events.filter (counts strict)

/-- Two replies that agree on all that counts. -/
structure AgreeReplies (forget : τ → σ) (strict : Bool) (reply' : Reply τ α) (reply : Reply σ α) :
    Prop where
  answer : reply'.answer = reply.answer
  disk : reply'.disk = reply.disk
  memory : forget reply'.memory = reply.memory
  asides : (reply'.asides.map Event.aside).filter (counts strict) =
    (reply.asides.map Event.aside).filter (counts strict)

variable {forget : τ → σ} {strict : Bool} {machine' : Machine τ} {machine : Machine σ}

theorem Agree.add {world' : World τ} {world : World σ} (agree : Agree forget strict world' world)
    (events : List Event) : Agree forget strict (world'.add events) (world.add events) :=
  ⟨agree.disk, agree.cwd, agree.memory, by
    simp only [World.add, List.filter_append, agree.events]⟩

/-- Collaborators whose replies agree are asked with the same effect. -/
theorem ask_agrees {request : Request} {collaborator' : View → τ → Reply τ α}
    {collaborator : View → σ → Reply σ α}
    (replies : ∀ view memory, AgreeReplies forget strict (collaborator' view memory)
      (collaborator view (forget memory))) :
    Mirrors (Agree forget strict) (Action.ask request collaborator')
      (Action.ask request collaborator) := by
  intro world' world agree
  have same : world'.view = world.view := by
    simp only [World.view, agree.disk, agree.cwd]
  have reply := replies world'.view world'.memory
  rw [agree.memory, same] at reply
  simp only [Action.perform, Action.ask, same]
  refine ⟨reply.answer, reply.disk, agree.cwd, reply.memory, ?_⟩
  simp only [World.add, List.filter_append, List.filter_cons, agree.events, reply.asides]

/-- A launch on machines that are alike fails on both or on neither, and leaves the same. -/
private theorem launch_alike (alike : AlikeMachines forget strict machine' machine)
    {command : Command} (plain : Plain command.program) (awaitsOutput : Bool) (view : View)
    (memory : τ) :
    (∃ failure records,
      command.launch awaitsOutput machine' view memory = ⟨.error failure, none, records⟩ ∧
      command.launch awaitsOutput machine view (forget memory) = ⟨.error failure, none, records⟩) ∨
    ∃ finished' finished records,
      command.launch awaitsOutput machine' view memory = ⟨.ok finished', some finished', records⟩ ∧
      command.launch awaitsOutput machine view (forget memory) =
        ⟨.ok finished, some finished, records⟩ ∧
      ((strict || command.program ≠ "mvn") = true → finished'.status = finished.status) ∧
      finished'.output = finished.output ∧ finished'.disk = finished.disk ∧
      forget finished'.memory = finished.memory := by
  unfold Command.launch
  rw [alike.searchPath]
  cases found : locate? machine.searchPath view command.program with
  | none => exact .inl ⟨_, _, rfl, rfl⟩
  | some file =>
    let invocation : Invocation :=
      ⟨file, file.bytes, command.arguments, command.directory?, awaitsOutput⟩
    have called : isCalled "mvn" invocation.program = decide (command.program = "mvn") := by
      simp only [invocation, isCalled, located_name plain found, Option.some.injEq,
        RunAccounting.ofString_injective.eq_iff]
    have ends := alike.start invocation view memory
    rw [called] at ends
    dsimp only
    generalize machine'.start invocation view memory = ended' at ends
    generalize machine.start invocation view (forget memory) = ended at ends
    cases ends with
    | failed fault => exact .inl ⟨_, _, rfl, rfl⟩
    | ended status output disk left =>
      refine .inr ⟨_, _, _, rfl, rfl, fun judged => status ?_, output, disk, left⟩
      simpa using judged

/-- The programs that are judged by how they end leave the same reply, to the last record. -/
private theorem status_agrees (alike : AlikeMachines forget strict machine' machine)
    {command : Command} (plain : Plain command.program) (judged : command.program ≠ "mvn")
    (shared : Bool) (answer : Status → α) (view : View) (memory : τ) :
    AgreeReplies forget strict
      (reply view memory shared (command.status machine' view memory) answer fun _ => [])
      (reply view (forget memory) shared (command.status machine view (forget memory)) answer
        fun _ => []) := by
  unfold Command.status
  rcases launch_alike alike plain false view memory with ⟨failure, records, launched', launched⟩ |
    ⟨finished', finished, records, launched', launched, status, output, disk, left⟩
  · rw [launched', launched]
    exact ⟨rfl, rfl, rfl, rfl⟩
  · rw [launched', launched]
    have ending := status (by simp [judged])
    exact ⟨by simp only [reply, Except.map, ending], disk, left, by simp only [reply, Except.map, output]⟩

private theorem capture_agrees (alike : AlikeMachines forget strict machine' machine)
    {command : Command} (plain : Plain command.program) (answer : Capture → α)
    (notes : Capture → List Record) (view : View) (memory : τ)
    (unjudged : command.program = "mvn" → ∀ capture capture' : Capture,
      capture.text = capture'.text → answer capture = answer capture') :
    AgreeReplies forget strict
      (reply view memory false (command.capture machine' view memory) answer notes)
      (reply view (forget memory) false (command.capture machine view (forget memory)) answer
        notes) := by
  unfold Command.capture
  rcases launch_alike alike plain true view memory with ⟨failure, records, launched', launched⟩ |
    ⟨finished', finished, records, launched', launched, status, output, disk, left⟩
  · rw [launched', launched]
    exact ⟨rfl, rfl, rfl, rfl⟩
  have text : Command.written finished' = Command.written finished := by
    simp only [Command.written, output]
  rw [launched', launched]
  dsimp only
  rw [text]
  by_cases judged : (strict || command.program ≠ "mvn") = true
  · rw [status judged]
    exact ⟨rfl, disk, left, rfl⟩
  · simp only [ne_eq, Bool.or_eq_true, decide_eq_true_eq, not_or, not_not,
      Bool.not_eq_true] at judged
    obtain ⟨loose, mvn⟩ := judged
    refine ⟨congrArg Except.ok (unjudged mvn _ _ rfl), disk, left, ?_⟩
    simp [reply, loose, counts, List.filter_map, Function.comp_def]

/-- On machines that are alike a run meets collaborators that are. -/
theorem toolchain_mirrors (alike : AlikeMachines forget strict machine' machine) :
    Mirroring (toolchain machine') (toolchain machine) (Agree forget strict) where
  view agree := by simp only [World.view, agree.disk, agree.cwd]
  say agree _ _ := agree.add _
  note agree _ := agree.add _
  workingTree root := ask_agrees fun view memory => by
    simp only [toolchain, workingTree]
    exact status_agrees alike (command_plain (.workingTree root)) (by simp [command, gitStatus])
      _ _ _ _
  dependencies project := ask_agrees fun view memory => by
    simp only [toolchain, dependencies]
    exact capture_agrees alike (command_plain (.dependencies project)) _ _ _ _ fun _ _ _ => id
  download url destination := ask_agrees fun view memory => by
    simp only [toolchain, download]
    exact capture_agrees alike (command_plain (.download url destination)) _ _ _ _
      (by simp [command, curlDownload])
  convert jar changelog := ask_agrees fun view memory => by
    simp only [toolchain, Toolchain.Installed.convert]
    exact status_agrees alike (command_plain (.convert jar changelog))
      (by simp [command, javaConvert]) _ _ _ _

/-- Whatever the arguments ask for, runs on machines that are alike come to the same. -/
theorem convert_agrees (alike : AlikeMachines forget strict machine' machine) (arguments : Arguments) :
    Mirrors (Agree forget strict) (convert (toolchain machine') arguments)
      (convert (toolchain machine) arguments) :=
  (toolchain_mirrors alike).convert_mirrors (fun agree _ => agree.add _) arguments

/-- A machine that writes down its processes is the same in all that counts. -/
theorem logged_alike (machine : Machine σ) : AlikeMachines Prod.fst true (logged machine) machine where
  searchPath := rfl
  start invocation view memory := by
    simp only [logged]
    cases machine.start invocation view memory.1 with
    | error fault => exact .failed fault
    | ok finished => exact .ended (fun _ => rfl) rfl rfl rfl

/-- Two machines that differ in nothing but how the processes of one program end. -/
structure SameButEnding (program : String) (machine' machine : Machine σ) : Prop where
  searchPath : machine'.searchPath = machine.searchPath
  others : ∀ invocation view memory, isCalled program invocation.program = false →
    machine'.start invocation view memory = machine.start invocation view memory
  leaves : ∀ invocation view memory,
    (machine'.start invocation view memory).map (fun left => (left.output, left.disk, left.memory)) =
      (machine.start invocation view memory).map fun left => (left.output, left.disk, left.memory)

theorem SameButEnding.alike {machine' machine : Machine σ} (same : SameButEnding "mvn" machine' machine) :
    AlikeMachines id false machine' machine where
  searchPath := same.searchPath
  start invocation view memory := by
    have leaves := same.leaves invocation view memory
    have others := same.others invocation view memory
    simp only [id_eq, Bool.false_or] at others ⊢
    cases ended' : machine'.start invocation view memory with
    | error fault' =>
      cases ended : machine.start invocation view memory with
      | error fault =>
        simp only [ended', ended, Except.map, Except.error.injEq] at leaves
        exact leaves ▸ .failed fault'
      | ok finished => simp [ended', ended, Except.map] at leaves
    | ok finished' =>
      cases ended : machine.start invocation view memory with
      | error fault => simp [ended', ended, Except.map] at leaves
      | ok finished =>
        simp only [ended', ended, Except.map, Except.ok.injEq, Prod.mk.injEq] at leaves others
        obtain ⟨output, disk, left⟩ := leaves
        refine .ended (fun judged => ?_) output disk left
        rw [others (by simpa using judged)]

end ChangelogSql.LikeMachines
