import ChangelogSql.Toolchain
import ChangelogSql.Transcript

/-! What a run asks of its collaborators, told apart from everything else it
does. A call is kept with its answer and with the disk and the memory around it,
so a collaborator that changes either is covered like one that does not. -/
namespace ChangelogSql.CallAccounts
open Files

variable {σ α β : Type}

/-- The disk and what the collaborators remember, at one moment. -/
structure Moment (σ : Type) where
  disk : Disk
  memory : σ

/-- What can be seen of a moment from a working directory. -/
def Moment.view (moment : Moment σ) (cwd : Location) : View :=
  ⟨moment.disk, cwd⟩

/-- The moment a world is in. -/
def momentOf (world : World σ) : Moment σ :=
  ⟨world.disk, world.memory⟩

/-- A request together with the answer it got. -/
inductive Exchange where
  | workingTree (root : Path) (answer : Except Failure Bool)
  | dependencies (project : Path) (answer : Except Failure String)
  | download (url : String) (destination : Path) (answer : Except Failure Download)
  | convert (jar changelog : Path) (answer : Except Failure Bool)

/-- What was asked in an exchange. -/
def Exchange.request : Exchange → Request
  | .workingTree root _ => .workingTree root
  | .dependencies project _ => .dependencies project
  | .download url destination _ => .download url destination
  | .convert jar changelog _ => .convert jar changelog

/-- One call to a collaborator, with the moments before and after it. -/
structure Call (σ : Type) where
  before : Moment σ
  exchange : Exchange
  after : Moment σ

/-- What was asked in a call. -/
def Call.request (call : Call σ) : Request :=
  call.exchange.request

/-- A reply gives this answer and leaves this moment behind. -/
def Gives (reply : Reply σ α) (answer : Except Failure α) (after : Moment σ) : Prop :=
  reply.answer = answer ∧ reply.disk = after.disk ∧ reply.memory = after.memory

/-- Asked at `before`, the collaborator concerned does answer as the exchange says. -/
def Answered (tools : Toolchain σ) (cwd : Location) (before : Moment σ) :
    Exchange → Moment σ → Prop
  | .workingTree root answer, after =>
    Gives (tools.workingTree root (before.view cwd) before.memory) answer after
  | .dependencies project answer, after =>
    Gives (tools.dependencies project (before.view cwd) before.memory) answer after
  | .download url destination answer, after =>
    Gives (tools.download url destination (before.view cwd) before.memory) answer after
  | .convert jar changelog answer, after =>
    Gives (tools.convert jar changelog (before.view cwd) before.memory) answer after

/-- Calls one right after the other: nothing but a call changes the moment. -/
inductive Chain (tools : Toolchain σ) (cwd : Location) : Moment σ → List (Call σ) → Moment σ → Prop
  | none : Chain tools cwd now [] now
  | next (answered : Answered tools cwd before exchange after) (more : Chain tools cwd after calls finish) :
      Chain tools cwd before (⟨before, exchange, after⟩ :: calls) finish

/-- The calls account for a stretch of a run: they lead from its first moment to
its last, and they are everything that was asked in it. -/
structure Accounts (tools : Toolchain σ) (before after : World σ) (calls : List (Call σ)) : Prop where
  place : after.cwd = before.cwd
  chain : Chain tools before.cwd (momentOf before) calls (momentOf after)
  asked : Transcript.requests after.events =
    Transcript.requests before.events ++ calls.map Call.request

theorem Chain.append (first : Chain tools cwd initial calls middle)
    (second : Chain tools cwd middle more finish) : Chain tools cwd initial (calls ++ more) finish := by
  induction first with
  | none => exact second
  | next answered _ ih => exact .next answered (ih second)

/-- What is asked and when decides how a call goes. -/
theorem answered_unique (one : Answered tools cwd before exchange after)
    (other : Answered tools cwd before exchange' after')
    (same : exchange.request = exchange'.request) : exchange = exchange' ∧ after = after' := by
  obtain ⟨disk, memory⟩ := after
  obtain ⟨disk', memory'⟩ := after'
  cases exchange <;> cases exchange' <;> simp only [Exchange.request, reduceCtorEq,
    Request.workingTree.injEq, Request.dependencies.injEq, Request.download.injEq,
    Request.convert.injEq] at same
  all_goals
    simp only [Answered, Gives] at one other
    grind

/-- Calls that follow one another from one moment are decided by what they ask. -/
theorem Chain.unique (one : Chain tools cwd initial calls finish)
    (other : Chain tools cwd initial calls' finish')
    (same : calls.map Call.request = calls'.map Call.request) : calls = calls' ∧ finish = finish' := by
  induction one generalizing calls' with
  | none =>
    cases other with
    | none => exact ⟨rfl, rfl⟩
    | next => simp at same
  | next answered _ ih =>
    cases other with
    | none => simp at same
    | next answered' more =>
      simp only [List.map_cons, List.cons.injEq] at same
      obtain ⟨rfl, rfl⟩ := answered_unique answered answered' same.1
      obtain ⟨rfl, rfl⟩ := ih more same.2
      exact ⟨rfl, rfl⟩

/-- A stretch of a run has one account. -/
theorem Accounts.unique (one : Accounts tools before after calls)
    (other : Accounts tools before after calls') : calls = calls' := by
  have same := one.asked.symm.trans other.asked
  exact (one.chain.unique other.chain (List.append_cancel_left same)).1

theorem Accounts.append (first : Accounts tools before middle calls)
    (second : Accounts tools middle after more) : Accounts tools before after (calls ++ more) where
  place := second.place.trans first.place
  chain := first.chain.append (first.place ▸ second.chain)
  asked := by rw [second.asked, first.asked, List.map_append, List.append_assoc]

/-- Events among which nothing is asked leave the account empty. -/
theorem Accounts.quiet (world : World σ) (silent : Transcript.requests events = []) :
    Accounts tools world (world.add events) [] where
  place := rfl
  chain := .none
  asked := by
    simp only [Transcript.requests] at silent
    simp [World.add, Transcript.requests, silent]

/-- Performed anywhere at this moment, the action makes these calls, comes to
this outcome and ends at that moment. Nothing that happened before matters. -/
def Performs (tools : Toolchain σ) (cwd : Location) (action : Action σ α) (before : Moment σ)
    (calls : List (Call σ)) (outcome : Except Failure α) (after : Moment σ) : Prop :=
  ∀ world : World σ, momentOf world = before → world.cwd = cwd →
    ∃ final, action.perform world = (outcome, final) ∧ Accounts tools world final calls ∧
      momentOf final = after

namespace Performs

variable {tools : Toolchain σ} {cwd : Location} {action : Action σ α} {next : α → Action σ β}
variable {before middle after : Moment σ} {calls more : List (Call σ)} {failure : Failure}

/-- A step that does nothing but add events among which nothing is asked. -/
private theorem quiet (events : World σ → List Event)
    (silent : ∀ world, Transcript.requests (events world) = []) (outcome : Except Failure α)
    (shape : ∀ world, momentOf world = before → world.cwd = cwd →
      action.perform world = (outcome, world.add (events world))) :
    Performs tools cwd action before [] outcome before := by
  intro world here place
  exact ⟨_, shape world here place, Accounts.quiet world (silent world), here⟩

theorem pure (a : α) : Performs tools cwd (Pure.pure a) before [] (.ok a) before :=
  quiet (fun _ => []) (fun _ => rfl) _ fun world _ _ => by
    simp only [World.add, List.append_nil]
    rfl

theorem throw (failure : Failure) :
    Performs tools cwd (MonadExcept.throw failure : Action σ α) before [] (.error failure) before :=
  quiet (fun _ => []) (fun _ => rfl) _ fun world _ _ => by
    simp only [World.add, List.append_nil]
    rfl

theorem view : Performs tools cwd Action.view before [] (.ok (before.view cwd)) before :=
  quiet (fun _ => []) (fun _ => rfl) _ fun world here place => by
    subst here place
    simp only [World.add, List.append_nil]
    rfl

theorem say (message : Message) :
    Performs tools cwd (Action.say message) before [] (.ok ()) before :=
  quiet (fun _ => [.said message]) (fun _ => rfl) _ fun _ _ _ => rfl

theorem note (records : List Record) :
    Performs tools cwd (Action.note records) before [] (.ok ()) before :=
  quiet (fun _ => records.map fun record => .aside (.record record))
    (fun _ => by simp [Transcript.requests, List.filterMap_map]) _
    fun _ _ _ => rfl

theorem bind (first : Performs tools cwd action before calls (.ok a) middle)
    (second : Performs tools cwd (next a) middle more outcome after) :
    Performs tools cwd (action >>= next) before (calls ++ more) outcome after := by
  intro world here place
  obtain ⟨between, performed, account, there⟩ := first world here place
  obtain ⟨final, went, rest, finish⟩ := second between there (account.place.trans place)
  refine ⟨final, ?_, account.append rest, finish⟩
  simp only [Action.perform] at performed went
  change (ExceptT.bind action next) world = _
  simp only [ExceptT.bind, ExceptT.mk, Bind.bind, StateT.bind, performed, ExceptT.bindCont]
  exact went

theorem bind_error (first : Performs tools cwd action before calls (.error failure) after) :
    Performs tools cwd (action >>= next) before calls (.error failure) after := by
  intro world here place
  obtain ⟨final, performed, account, finish⟩ := first world here place
  refine ⟨final, ?_, account, finish⟩
  simp only [Action.perform] at performed
  change (ExceptT.bind action next) world = _
  simp only [ExceptT.bind, ExceptT.mk, Bind.bind, StateT.bind, performed, ExceptT.bindCont]
  rfl

/-- A step without calls leaves the moment to what comes next. -/
theorem after_quiet (first : Performs tools cwd action before [] (.ok a) before)
    (second : Performs tools cwd (next a) before calls outcome after) :
    Performs tools cwd (action >>= next) before calls outcome after :=
  first.bind second

/-- What comes last may make no calls. -/
theorem before_quiet (first : Performs tools cwd action before calls (.ok a) middle)
    (second : Performs tools cwd (next a) middle [] outcome after) :
    Performs tools cwd (action >>= next) before calls outcome after := by
  simpa using first.bind second

/-- Asking a collaborator is one call. -/
private theorem ask (exchange : Exchange) (collaborator : View → σ → Reply σ α)
    (answered : Answered tools cwd before exchange after)
    (gives : Gives (collaborator (before.view cwd) before.memory) answer after) :
    Performs tools cwd (Action.ask exchange.request collaborator) before
      [⟨before, exchange, after⟩] answer after := by
  intro world here place
  subst here place
  obtain ⟨disk, memory⟩ := after
  obtain ⟨rfl, rfl, rfl⟩ := gives
  refine ⟨_, rfl, ⟨rfl, .next answered .none, ?_⟩, rfl⟩
  simp [World.add, Transcript.requests, List.filterMap_map, Call.request]

theorem askWorkingTree (answered : Answered tools cwd before (.workingTree root answer) after) :
    Performs tools cwd (tools.askWorkingTree root) before
      [⟨before, .workingTree root answer, after⟩] answer after :=
  ask (.workingTree root answer) _ answered answered

theorem askDependencies (answered : Answered tools cwd before (.dependencies project answer) after) :
    Performs tools cwd (tools.askDependencies project) before
      [⟨before, .dependencies project answer, after⟩] answer after :=
  ask (.dependencies project answer) _ answered answered

theorem askDownload (answered : Answered tools cwd before (.download url destination answer) after) :
    Performs tools cwd (tools.askDownload url destination) before
      [⟨before, .download url destination answer, after⟩] answer after :=
  ask (.download url destination answer) _ answered answered

theorem askConvert (answered : Answered tools cwd before (.convert jar changelog answer) after) :
    Performs tools cwd (tools.askConvert jar changelog) before
      [⟨before, .convert jar changelog answer, after⟩] answer after :=
  ask (.convert jar changelog answer) _ answered answered

/-- An action does one thing at a moment. -/
theorem unique (one : Performs tools cwd action before calls outcome after)
    (other : Performs tools cwd action before more outcome' after') :
    calls = more ∧ outcome = outcome' ∧ after = after' := by
  obtain ⟨final, performed, account, rfl⟩ := one ⟨before.disk, cwd, before.memory, []⟩ rfl rfl
  obtain ⟨final', performed', account', rfl⟩ := other ⟨before.disk, cwd, before.memory, []⟩ rfl rfl
  obtain ⟨rfl, rfl⟩ := Prod.mk.inj (performed.symm.trans performed')
  exact ⟨account.unique account', rfl, rfl⟩

end Performs

end ChangelogSql.CallAccounts
