import ChangelogSql.Proofs.MirroredRun
import ChangelogSql.Proofs.RunCourse
import ChangelogSql.Proofs.StoreEvents

/-! The messages of a run as an account of what it has done. A run that fails
returns no summary and undoes nothing, so its messages are all that tells how far
it came. One relation says which messages go with which calls; every part of a
run keeps to it, wherever the run ends. Found and reused jars go with the blocks
of the run instead, one for each changelog that it came to. -/
namespace ChangelogSql.RunMessages
open Files Conversion CallAccounts MirroredRun RunCourse StoreEvents

variable {σ α β : Type}

section Transcript

/-- What is told among some events, of one kind. -/
def told (read : Message → Option β) (events : List Event) : List β :=
  (Transcript.messages events).filterMap read

def notice? : Message → Option Path
  | .noChangelogs root => some root
  | _ => none

def found? : Message → Option Path
  | .found changelog => some changelog
  | _ => none

def cached? : Message → Option Path
  | .cachedJar jar => some jar
  | _ => none

def output? : Message → Option String
  | .downloadOutput output => some output
  | _ => none

def converted? : Message → Option (Path × Path)
  | .converted changelog result => some (changelog, result)
  | _ => none

/-- The changelog of a call that has converted it. -/
def success? (call : Call σ) : Option Path :=
  match call.exchange with
  | .convert _ changelog (.ok true) => some changelog
  | _ => none

/-- What a call has answered that has not fetched anything. -/
def unfetched? (call : Call σ) : Option String :=
  match call.exchange with
  | .download _ _ (.ok (.failed output)) => some output
  | _ => none

/-- A download was asked for among the events. -/
def fetches (events : List Event) : Bool :=
  events.any fun
    | .asked (.download ..) => true
    | _ => false

/-- A message that goes with no call. -/
def isRemark : Message → Bool
  | .noChangelogs _ | .found _ | .usingManifest _ | .version _ | .cachedJar _ => true
  | _ => false

/-- A call after which nothing has to be told. -/
def isInquiry (call : Call σ) : Bool :=
  match call.exchange with
  | .workingTree .. | .dependencies .. => true
  | .convert _ _ answer => !(answer matches .ok true)
  | .download .. => false

/-- How events go with calls. A download is told right before it is asked for, and a conversion
once it has succeeded; what is written about a download that failed is the last that is told. -/
inductive Telling : List Event → List (Call σ) → Option String → Prop
  | nothing : Telling [] [] none
  | aside (more : Telling events calls ended) : Telling (.aside aside :: events) calls ended
  | remark (plain : isRemark message = true) (more : Telling events calls ended) :
      Telling (.said message :: events) calls ended
  | inquiry (plain : isInquiry call = true) (more : Telling events calls ended) :
      Telling (.asked call.request :: events) (call :: calls) ended
  | converted (asides : List Aside) (more : Telling events calls ended) :
      Telling (.asked (.convert jar changelog) ::
          (asides.map .aside ++ .said (.converted changelog (Output.pathFor changelog)) :: events))
        (⟨before, .convert jar changelog (.ok true), after⟩ :: calls) ended
  | download (settled : ∀ output, answer ≠ .ok (.failed output)) (more : Telling events calls ended) :
      Telling (.said (.downloadingJar destination) :: .asked (.download url destination) :: events)
        (⟨before, .download url destination answer, after⟩ :: calls) ended
  | unfetched (asides : List Aside) :
      Telling (.said (.downloadingJar destination) :: .asked (.download url destination) ::
          (asides.map .aside ++ [.said (.downloadOutput output)]))
        [⟨before, .download url destination (.ok (.failed output)), after⟩] (some output)

/-- The event tells of a download or asks for one. -/
def isAboutDownload : Event → Bool
  | .said (.downloadingJar _) | .asked (.download ..) => true
  | _ => false

/-- Each download is told right before it is asked for, and nothing else is told as one. -/
inductive Announced : List Event → Prop
  | nothing : Announced []
  | other (plain : isAboutDownload event = false) (more : Announced events) : Announced (event :: events)
  | pair (more : Announced events) :
      Announced (.said (.downloadingJar jar) :: .asked (.download url jar) :: events)

variable {events more : List Event} {calls others : List (Call σ)} {ended : Option String}

@[simp] theorem told_nil (read : Message → Option β) : told read [] = [] := rfl

@[simp] theorem told_append (read : Message → Option β) (events more : List Event) :
    told read (events ++ more) = told read events ++ told read more := by
  simp [told, Transcript.messages]

@[simp] theorem told_said (read : Message → Option β) (message : Message) (events : List Event) :
    told read (.said message :: events) = (read message).toList ++ told read events := by
  cases kind : read message <;> simp [told, Transcript.messages, kind]

@[simp] theorem told_asked (read : Message → Option β) (request : Request) (events : List Event) :
    told read (.asked request :: events) = told read events := rfl

@[simp] theorem told_aside (read : Message → Option β) (aside : Aside) (events : List Event) :
    told read (.aside aside :: events) = told read events := rfl

@[simp] theorem told_asides (read : Message → Option β) (asides : List Aside) :
    told read (asides.map .aside) = [] := by
  induction asides with
  | nil => rfl
  | cons aside asides ih => rw [List.map_cons, told_aside, ih]

theorem Telling.append (first : Telling events calls none) (second : Telling more others ended) :
    Telling (events ++ more) (calls ++ others) ended := by
  generalize finished : (none : Option String) = unended at first
  induction first with
  | nothing => exact second
  | aside _ ih => exact .aside (ih finished)
  | remark plain _ ih => exact .remark plain (ih finished)
  | inquiry plain _ ih => exact .inquiry plain (ih finished)
  | converted asides _ ih => 
    rw [List.cons_append, List.append_assoc, List.cons_append]
    exact .converted asides (ih finished)
  | download settled _ ih => exact .download settled (ih finished)
  | unfetched => cases finished

theorem Telling.asides (asides : List Aside) : Telling (asides.map .aside) ([] : List (Call σ)) none := by
  induction asides with
  | nil => exact .nothing
  | cons aside asides ih => exact .aside ih

/-- An inquiry has converted nothing and asked for no download. -/
theorem inquiry_plain {call : Call σ} (plain : isInquiry call = true) :
    success? call = none ∧ unfetched? call = none ∧
      ∀ url destination, call.request ≠ .download url destination := by
  obtain ⟨before, exchange, after⟩ := call
  cases exchange with
  | workingTree | dependencies => exact ⟨rfl, rfl, nofun⟩
  | download => cases plain
  | convert jar changelog answer =>
    match answer with
    | .ok true => cases plain
    | .ok false | .error failure => exact ⟨rfl, rfl, nofun⟩

theorem settled_plain {answer : Except Failure Download} {before after : Moment σ}
    (settled : ∀ output, answer ≠ .ok (.failed output)) :
    unfetched? ⟨before, .download url destination answer, after⟩ = none := by
  match answer with
  | .ok .fetched | .error failure => rfl
  | .ok (.failed output) => exact absurd rfl (settled output)

/-- Conversions are told as often as they succeed, in the same order. -/
theorem Telling.conversions (telling : Telling events calls ended) : told converted? events =
    (calls.filterMap success?).map fun changelog => (changelog, Output.pathFor changelog) := by
  induction telling with
  | nothing => rfl
  | aside _ ih => exact ih
  | @remark message _ _ _ plain _ ih =>
    cases message <;> first | exact ih | cases plain
  | inquiry plain _ ih => rw [told_asked, ih, List.filterMap_cons_none (inquiry_plain plain).1]
  | converted asides _ ih =>
    rw [told_asked, told_append, told_asides, told_said, ih]
    rfl
  | download settled _ ih => rwa [told_said, told_asked, List.filterMap_cons_none rfl]
  | unfetched asides => simp [converted?, success?]

/-- What was written about a download is told if it has failed, and then nothing else is. -/
theorem Telling.outputs (telling : Telling events calls ended) :
    told output? events = ended.toList ∧ calls.filterMap unfetched? = ended.toList ∧
      ∀ output ∈ ended, events.getLast? = some (.said (.downloadOutput output)) := by
  have behind {event : Event} {events : List Event} {ended : Option String}
      (last : ∀ output ∈ ended, events.getLast? = some (.said (.downloadOutput output))) :
      ∀ output ∈ ended, (event :: events).getLast? = some (.said (.downloadOutput output)) := by
    intro output member
    rw [List.getLast?_cons, last output member, Option.getD_some]
  induction telling with
  | nothing => exact ⟨rfl, rfl, nofun⟩
  | aside _ ih => exact ⟨ih.1, ih.2.1, behind ih.2.2⟩
  | @remark message _ _ _ plain _ ih =>
    refine ⟨?_, ih.2.1, behind ih.2.2⟩
    cases message <;> first | exact ih.1 | cases plain
  | inquiry plain _ ih =>
    rw [told_asked, List.filterMap_cons_none (inquiry_plain plain).2.1]
    exact ⟨ih.1, ih.2.1, behind ih.2.2⟩
  | converted asides _ ih =>
    rw [told_asked, told_append, told_asides, told_said, List.filterMap_cons_none rfl]
    refine ⟨ih.1, ih.2.1, behind fun output member => ?_⟩
    rw [List.getLast?_append, behind ih.2.2 output member, Option.some_or]
  | download settled _ ih =>
    rw [told_said, told_asked, List.filterMap_cons_none (settled_plain settled)]
    exact ⟨ih.1, ih.2.1, behind (behind ih.2.2)⟩
  | unfetched asides =>
    refine ⟨by simp [output?], rfl, behind (behind ?_)⟩
    rintro output ⟨⟩
    exact List.getLast?_concat

theorem Announced.before (announced : Announced events) {front back : List Event}
    (cut : events = front ++ .asked (.download url destination) :: back) :
    front.getLast? = some (.said (.downloadingJar destination)) := by
  have behind {event : Event} {front : List Event}
      (last : front.getLast? = some (.said (.downloadingJar destination))) :
      (event :: front).getLast? = some (.said (.downloadingJar destination)) := by
    rw [List.getLast?_cons, last, Option.getD_some]
  induction announced generalizing front with
  | nothing => simp at cut
  | other plain _ ih =>
    cases front with
    | nil =>
      cases cut
      cases plain
    | cons event front => exact behind (ih (List.cons.inj cut).2)
  | pair _ ih =>
    match front with
    | [] => cases cut
    | [_] =>
      cases cut
      rfl
    | _ :: _ :: front => exact behind (behind (ih (List.cons.inj (List.cons.inj cut).2).2))

theorem Announced.behind (announced : Announced events) {front back : List Event}
    (cut : events = front ++ .said (.downloadingJar jar) :: back) :
    ∃ url, back.head? = some (.asked (.download url jar)) := by
  induction announced generalizing front with
  | nothing => simp at cut
  | other plain _ ih =>
    cases front with
    | nil =>
      cases cut
      cases plain
    | cons event front => exact ih (List.cons.inj cut).2
  | pair _ ih =>
    match front with
    | [] =>
      cases cut
      exact ⟨_, rfl⟩
    | [_] => cases cut
    | _ :: _ :: front => exact ih (List.cons.inj (List.cons.inj cut).2).2

theorem Announced.asides (asides : List Aside) (more : Announced events) :
    Announced (asides.map .aside ++ events) := by
  induction asides with
  | nil => exact more
  | cons aside asides ih => exact .other rfl ih

theorem Telling.announced (telling : Telling events calls ended) : Announced events := by
  induction telling with
  | nothing => exact .nothing
  | aside _ ih => exact .other rfl ih
  | @remark message _ _ _ plain _ ih =>
    refine .other ?_ ih
    cases message <;> first | rfl | cases plain
  | @inquiry call _ _ _ plain _ ih =>
    refine .other ?_ ih
    cases request : call.request <;> first | rfl | exact absurd request ((inquiry_plain plain).2.2 _ _)
  | converted asides _ ih => exact .other rfl (.asides asides (.other rfl ih))
  | download settled _ ih => exact .pair ih
  | unfetched asides => exact .pair (.asides asides (.other rfl .nothing))

end Transcript

section Passages

/-- What an action does in a world, told by its events and its calls. An action that goes through
has not ended in a download that failed. -/
structure Passage (tools : Toolchain σ) (action : Action σ α) (world : World σ)
    (events : List Event) (calls : List (Call σ)) (ended : Option String) : Prop where
  account : Accounts tools world (action.perform world).2 calls
  added : (action.perform world).2.events = world.events ++ events
  telling : Telling events calls ended
  unended : (action.perform world).1.toBool = true → ended = none

/-- Performed in this world, the action tells of its calls, and its outcome and its events are
as `about` has them. -/
def Tells (tools : Toolchain σ) (action : Action σ α) (world : World σ)
    (about : Except Failure α → List Event → Prop) : Prop :=
  ∃ events calls ended, Passage tools action world events calls ended ∧
    about (action.perform world).1 events

variable {tools : Toolchain σ} {action : Action σ α} {next : α → Action σ β}
variable {world middle : World σ} {events more : List Event} {calls others : List (Call σ)}
variable {ended : Option String}

theorem performed_account {outcome : Except Failure α} {after : Moment σ}
    (performs : Performs tools world.cwd action (momentOf world) calls outcome after) :
    Accounts tools world (action.perform world).2 calls := by
  obtain ⟨final, performed, account, -⟩ := performs world rfl rfl
  rwa [performed]

theorem Passage.bind {ended' : Option String} (first : Passage tools action world events calls ended)
    (went : action.perform world = (.ok a, middle))
    (second : Passage tools (next a) middle more others ended') :
    Passage tools (action >>= next) world (events ++ more) (calls ++ others) ended' := by
  have performed : (action >>= next).perform world = (next a).perform middle := by
    rw [perform_bind, went]
  obtain ⟨account, told, telling, unended⟩ := first
  rw [went] at account told unended
  cases unended rfl
  refine ⟨?_, ?_, telling.append second.telling, ?_⟩ <;> rw [performed]
  · exact account.append second.account
  · rw [second.added, told, List.append_assoc]
  · exact second.unended

theorem Passage.bind_error {failure : Failure} (first : Passage tools action world events calls ended)
    (failed : action.perform world = (.error failure, middle)) :
    Passage tools (action >>= next) world events calls ended := by
  have performed : (action >>= next).perform world = (.error failure, middle) := by
    rw [perform_bind, failed]
  obtain ⟨account, told, telling, -⟩ := first
  rw [failed] at account told
  refine ⟨?_, ?_, telling, ?_⟩ <;> rw [performed]
  · exact account
  · exact told
  · nofun

/-- Events among which no changelog and no jar is told of, and no download asked for. -/
structure Quiet (events : List Event) : Prop where
  notice : told notice? events = []
  found : told found? events = []
  cached : told cached? events = []
  still : fetches events = false

theorem fetches_append (events more : List Event) :
    fetches (events ++ more) = (fetches events || fetches more) :=
  List.any_append

theorem quiet_asides (asides : List Aside) : Quiet (asides.map .aside) where
  notice := told_asides _ _
  found := told_asides _ _
  cached := told_asides _ _
  still := by simp [fetches]

theorem Quiet.append (first : Quiet events) (second : Quiet more) : Quiet (events ++ more) where
  notice := by rw [told_append, first.notice, second.notice, List.append_nil]
  found := by rw [told_append, first.found, second.found, List.append_nil]
  cached := by rw [told_append, first.cached, second.cached, List.append_nil]
  still := by rw [fetches_append, first.still, second.still, Bool.or_false]

theorem quiet_nil : Quiet [] :=
  quiet_asides []

/-- Records that a run leaves. -/
def recorded (records : List Record) : List Event :=
  records.map fun record => .aside (.record record)

theorem recorded_asides (records : List Record) :
    recorded records = (records.map Aside.record).map .aside := by
  rw [List.map_map]
  rfl

theorem quiet_recorded (records : List Record) : Quiet (recorded records) :=
  recorded_asides records ▸ quiet_asides _

namespace Tells

variable {about : Except Failure α → List Event → Prop}
variable {about' : Except Failure β → List Event → Prop}

/-- The second action is told of in the world that the first one leaves, behind its events. -/
theorem bind (first : Tells tools action world about)
    (failed : ∀ failure middle events, action.perform world = (.error failure, middle) →
      about (.error failure) events → about' (.error failure) events)
    (second : ∀ a middle events, action.perform world = (.ok a, middle) → about (.ok a) events →
      Tells tools (next a) middle fun outcome more => about' outcome (events ++ more)) :
    Tells tools (action >>= next) world about' := by
  obtain ⟨events, calls, ended, passage, holds⟩ := first
  cases performed : action.perform world with
  | mk outcome middle =>
    rw [performed] at holds
    cases outcome with
    | error failure =>
      refine ⟨events, calls, ended, passage.bind_error performed, ?_⟩
      rw [perform_bind, performed]
      exact failed failure middle events performed holds
    | ok a =>
      obtain ⟨more, others, ended', passage', holds'⟩ := second a middle events performed holds
      refine ⟨_, _, _, passage.bind performed passage', ?_⟩
      rwa [perform_bind, performed]

theorem pure (holds : about (.ok a) []) : Tells tools (Pure.pure a) world about :=
  ⟨[], [], none, ⟨performed_account (.pure a), (List.append_nil _).symm, .nothing, fun _ => rfl⟩, holds⟩

theorem throw {failure : Failure} (holds : about (.error failure) []) :
    Tells tools (MonadExcept.throw failure : Action σ α) world about :=
  ⟨[], [], none, ⟨performed_account (.throw failure), (List.append_nil _).symm, .nothing,
    fun _ => rfl⟩, holds⟩

/-- Looking at the disk is no event. -/
theorem view {next : View → Action σ β} (second : Tells tools (next world.view) world about') :
    Tells tools (Action.view >>= next) world about' := by
  have first : Tells tools Action.view world fun outcome events =>
      outcome = .ok world.view ∧ events = [] :=
    ⟨[], [], none, ⟨performed_account .view, (List.append_nil _).symm, .nothing, fun _ => rfl⟩, rfl, rfl⟩
  refine first.bind (fun _ _ _ _ holds => nomatch holds.1) ?_
  rintro _ middle _ performed ⟨same, rfl⟩
  cases same
  cases performed
  exact second

theorem say {next : Unit → Action σ β} (plain : isRemark message = true)
    (second : Tells tools (next ()) (world.add [.said message]) fun outcome events =>
      about' outcome (.said message :: events)) :
    Tells tools (Action.say message >>= next) world about' := by
  have first : Tells tools (Action.say message) world fun outcome events =>
      outcome = .ok () ∧ events = [.said message] :=
    ⟨[.said message], [], none, ⟨performed_account (.say message), rfl, .remark plain .nothing,
      fun _ => rfl⟩, rfl, rfl⟩
  refine first.bind (fun _ _ _ _ holds => nomatch holds.1) ?_
  rintro _ middle _ performed ⟨-, rfl⟩
  cases performed
  exact second

theorem note {next : Unit → Action σ β} (records : List Record)
    (second : Tells tools (next ()) (world.add (recorded records)) fun outcome events =>
      about' outcome (recorded records ++ events)) :
    Tells tools (Action.note records >>= next) world about' := by
  have first : Tells tools (Action.note records) world fun outcome events =>
      outcome = .ok () ∧ events = recorded records :=
    ⟨recorded records, [], none, ⟨performed_account (.note records), rfl,
      recorded_asides records ▸ .asides _, fun _ => rfl⟩, rfl, rfl⟩
  refine first.bind (fun _ _ _ _ holds => nomatch holds.1) ?_
  rintro _ middle _ performed ⟨-, rfl⟩
  cases performed
  exact second

/-- A question after which nothing has to be told. -/
theorem ask {collaborator : View → σ → Reply σ α} (call : Call σ) {outcome : Except Failure α}
    {after : Moment σ}
    (performs : Performs tools world.cwd (Action.ask call.request collaborator) (momentOf world)
      [call] outcome after) (plain : isInquiry call = true) :
    Tells tools (Action.ask call.request collaborator) world fun outcome events =>
      outcome = (collaborator world.view world.memory).answer ∧ Quiet events := by
  refine ⟨.asked call.request :: (collaborator world.view world.memory).asides.map .aside, [call], none,
    ⟨performed_account performs, rfl, .inquiry plain (.asides _), fun _ => rfl⟩, rfl, ?_⟩
  refine Quiet.append (⟨rfl, rfl, rfl, ?_⟩ : Quiet [.asked call.request]) (quiet_asides _)
  cases request : call.request <;> first | rfl | exact absurd request ((inquiry_plain plain).2.2 _ _)

theorem of_performed {outcome : Except Failure α} {after : World σ}
    (performed : action.perform world = (outcome, after))
    (account : Accounts tools world after calls)
    (added : after.events = world.events ++ events) (telling : Telling events calls ended)
    (unended : outcome.toBool = true → ended = none) (holds : about outcome events) :
    Tells tools action world about := by
  refine ⟨events, calls, ended, ⟨?_, ?_, telling, ?_⟩, ?_⟩ <;> rw [performed]
  · exact account
  · exact added
  · exact unended
  · exact holds

theorem mono {about' : Except Failure α → List Event → Prop} (tells : Tells tools action world about)
    (implies : ∀ outcome events, about outcome events → about' outcome events) :
    Tells tools action world about' := by
  obtain ⟨events, calls, ended, passage, holds⟩ := tells
  exact ⟨events, calls, ended, passage, implies _ _ holds⟩

end Tells

/-- Resolving tells nothing. -/
theorem resolve_tells (tools : Toolchain σ) (root changelog : Path) (memo : Memo) (world : World σ) :
    Tells tools (resolve tools root changelog memo) world fun _ events => Quiet events := by
  refine Tells.view ?_
  cases Manifest.nearest? world.view (changelog.parent?.getD root) root with
  | none => exact .throw quiet_nil
  | some manifest =>
    dsimp only
    cases memo.find? manifest with
    | some version => exact .note _ (.pure ((quiet_recorded _).append quiet_nil))
    | none =>
      let project := manifest.parent?.getD root
      let reply := tools.dependencies project world.view world.memory
      let call : Call σ := ⟨momentOf world, .dependencies project reply.answer, ⟨reply.disk, reply.memory⟩⟩
      have asking : Tells tools (tools.askDependencies project) world _ :=
        Tells.ask call (.askDependencies ⟨rfl, rfl, rfl⟩) rfl
      refine asking.bind (fun _ _ _ _ holds => holds.2) fun listing middle events _ ⟨_, quiet⟩ => ?_
      cases Version.inListing? listing with
      | none => exact .throw (quiet.append quiet_nil)
      | some version => exact .pure (quiet.append quiet_nil)

/-- What supplying a jar tells: that it is there, unless a download was asked for. -/
structure Supplied (jar : Jar) (events : List Event) : Prop where
  notice : told notice? events = []
  found : told found? events = []
  cached : told cached? events = if fetches events then [] else [jar.path]

theorem supplied_asking {jar : Jar} (asides : List Aside) {rest : List Event}
    (silent : told notice? rest = [] ∧ told found? rest = [] ∧ told cached? rest = []) :
    Supplied jar (asking jar asides ++ rest) := by
  obtain ⟨notice, found, cached⟩ := silent
  refine ⟨?_, ?_, ?_⟩
  · simp [asking, notice, notice?]
  · simp [asking, found, found?]
  · simp [asking, cached, cached?, fetches]

theorem ensure_tells (tools : Toolchain σ) (store : JarStore) (version : String) (world : World σ) :
    Tells tools (store.ensure tools version) world fun _ events =>
      Supplied (store.jar version) events := by
  have ensured := ensure_ensured tools store version world
  generalize jar_eq : store.jar version = jar at ensured ⊢
  let reply := replyIn tools jar world
  have asked {answer : Except Failure Download} (given : reply.answer = answer) :
      Answered tools world.cwd (momentOf world) (.download jar.url jar.path answer)
        ⟨reply.disk, reply.memory⟩ :=
    ⟨given, rfl, rfl⟩
  have telling {answer : Except Failure Download} (settled : ∀ output, answer ≠ .ok (.failed output)) :
      Telling (asking jar reply.asides)
        [⟨momentOf world, .download jar.url jar.path answer, ⟨reply.disk, reply.memory⟩⟩] none :=
    .download settled (.asides reply.asides)
  rcases performed : (store.ensure tools version).perform world with ⟨outcome, after⟩
  have account {calls : List (Call σ)} {supply : Except Failure Unit} {supplied : Moment σ}
      (supplying : Supplying tools world.cwd jar (momentOf world) calls supply supplied) :
      Accounts tools world after calls := by
    have account := performed_account (ensure_performs (jar_eq ▸ supplying))
    rwa [performed] at account
  rw [performed] at ensured
  cases ensured with
  | present there =>
    exact .of_performed performed (account (.present there)) rfl (.remark rfl .nothing)
      (fun _ => rfl) ⟨rfl, rfl, rfl⟩
  | fetched missing answer =>
    exact .of_performed performed (account (.fetched missing (asked answer)))
      (List.append_assoc ..) ((telling (by simp)).append (.aside .nothing)) (fun _ => rfl)
      (supplied_asking _ ⟨rfl, rfl, rfl⟩)
  | unfetched missing answer =>
    exact .of_performed performed (account (.unfetched missing (asked answer)))
      (List.append_assoc ..) (.unfetched reply.asides) (absurd · Bool.false_ne_true)
      (supplied_asking _ ⟨rfl, rfl, rfl⟩)
  | refused missing answer =>
    have supplied : Supplied jar (asking jar reply.asides ++ []) := supplied_asking _ ⟨rfl, rfl, rfl⟩
    rw [List.append_nil] at supplied
    exact .of_performed performed (account (.refused missing (asked answer))) rfl
      (telling (by simp)) (fun _ => rfl) supplied

/-- Converting tells that it went well, or nothing. -/
theorem convert_tells (tools : Toolchain σ) (jar changelog : Path) (progress : Progress)
    (world : World σ) :
    Tells tools
      (do
        if ← tools.askConvert jar changelog then
          Action.say (.converted changelog (Output.pathFor changelog))
          return progress
        else
          throw (.conversion changelog))
      world fun _ events => Quiet events := by
  let reply := tools.convert jar changelog world.view world.memory
  let call : Call σ := ⟨momentOf world, .convert jar changelog reply.answer, ⟨reply.disk, reply.memory⟩⟩
  have asked : Answered tools world.cwd (momentOf world) (.convert jar changelog reply.answer)
      ⟨reply.disk, reply.memory⟩ := ⟨rfl, rfl, rfl⟩
  have performed : (tools.askConvert jar changelog).perform world = (reply.answer,
      ⟨reply.disk, world.cwd, reply.memory,
        world.events ++ (.asked (.convert jar changelog) :: reply.asides.map .aside)⟩) := rfl
  by_cases success : reply.answer = .ok true
  · rw [success] at asked performed
    refine ⟨_, _, none, ⟨performed_account ((Performs.askConvert asked).before_quiet
      ((Performs.say _).after_quiet (.pure _))), ?_, .converted reply.asides .nothing, fun _ => rfl⟩, ?_⟩
    · rw [perform_bind, performed]
      exact List.append_assoc ..
    · exact ⟨by simp [notice?], by simp [found?], by simp [cached?], by simp [fetches]⟩
  · have plain : isInquiry call = true := by
      match answer : reply.answer with
      | .ok true => exact absurd answer success
      | .ok false | .error failure => simp [call, isInquiry, answer]
    have asking : Tells tools (tools.askConvert jar changelog) world _ :=
      Tells.ask call (.askConvert asked) plain
    refine asking.bind (fun _ _ _ _ holds => holds.2) fun answer middle events _ ⟨given, quiet⟩ => ?_
    cases answer with
    | false => exact .throw (quiet.append quiet_nil)
    | true => exact absurd given.symm success

/-- What is done once a version is found: its jar is made sure of, and then the changelog is
converted with it. -/
theorem supply_tells (tools : Toolchain σ) (progress : Progress) (memo : Memo) (version : String)
    (changelog : Path) (world : World σ) :
    Tells tools
      (do
        let supplied ← progress.store.ensure tools version
        if ← tools.askConvert supplied.1.path changelog then
          Action.say (.converted changelog (Output.pathFor changelog))
          return (⟨memo, supplied.2, progress.converted ++ [changelog]⟩ : Progress)
        else
          throw (.conversion changelog))
      world fun _ events => ∃ supplying back, events = supplying ++ back ∧
        Supplied (progress.store.jar version) supplying ∧ Quiet back := by
  refine (ensure_tells ..).bind ?_ ?_
  · intro failure _ events _ supplied
    exact ⟨events, [], (List.append_nil _).symm, supplied, quiet_nil⟩
  · intro made _ events _ supplied
    exact (convert_tells ..).mono fun _ back quiet => ⟨events, back, rfl, supplied, quiet⟩

end Passages

section Blocks

/-- A changelog a run comes to, and the state and the world it is met in. -/
structure Leg (σ : Type) where
  changelog : Path
  progress : Progress
  world : World σ

namespace Leg

/-- What the changelog's block comes to. -/
def ending (tools : Toolchain σ) (root : Path) (leg : Leg σ) : Except Failure Progress × World σ :=
  (convertOne tools root leg.progress leg.changelog).perform leg.world

/-- The events of its block. -/
def events (tools : Toolchain σ) (root : Path) (leg : Leg σ) : List Event :=
  (leg.ending tools root).2.events.drop leg.world.events.length

/-- The jar that its block makes sure of: there is one if a version was found for the changelog. -/
def jar? (tools : Toolchain σ) (root : Path) (leg : Leg σ) : Option Jar :=
  let met := leg.world.add [.said (.found leg.changelog)]
  match ((resolve tools root leg.changelog leg.progress.memo).perform met).1 with
  | .ok (resolution, _) => some (leg.progress.store.jar resolution.version)
  | .error _ => none

end Leg

/-- The blocks of a run over some changelogs, to the first that fails. -/
def legs (tools : Toolchain σ) (root : Path) : List Path → Progress → World σ → List (Leg σ)
  | [], _, _ => []
  | changelog :: rest, progress, world =>
    let leg : Leg σ := ⟨changelog, progress, world⟩
    leg :: match leg.ending tools root with
      | (.ok progress, middle) => legs tools root rest progress middle
      | (.error _, _) => []

/-- Where a run over some changelogs stops: behind the last of them, or with the block that
has failed. -/
inductive Halted (tools : Toolchain σ) (root : Path) (changelogs : List Path) :
    List (Leg σ) → Except Failure α → Prop
  | finished (whole : blocks.map Leg.changelog = changelogs)
      (well : ∀ leg ∈ blocks, (leg.ending tools root).1.toBool = true) :
      Halted tools root changelogs blocks (.ok a)
  | failed {failure : Failure} (well : ∀ leg ∈ earlier, (leg.ending tools root).1.toBool = true)
      (fails : (last.ending tools root).1 = .error failure)
      (through : changelogs = (earlier ++ [last]).map Leg.changelog ++ later) :
      Halted tools root changelogs (earlier ++ [last]) (.error failure)

/-- What is told in the block of a changelog of what was found and of jars that are there. -/
structure InBlock (changelog : Path) (jar? : Option Jar) (events : List Event) : Prop where
  notice : told notice? events = []
  found : told found? events = [changelog]
  cached : told cached? events = if fetches events then [] else (jar?.map Jar.path).toList

theorem block_unresolved (quiet : Quiet events) :
    InBlock changelog none (.said (.found changelog) :: events) where
  notice := by simp [quiet.notice, notice?]
  found := by simp [quiet.found, found?]
  cached := by simp [quiet.cached, cached?]

theorem block_resolved {front back supplying : List Event} {jar : Jar} (before : Quiet front)
    (supplied : Supplied jar supplying) (behind : Quiet back) (manifest : Path) (version : String) :
    InBlock changelog (some jar) (.said (.found changelog) ::
      (front ++ (.said (.usingManifest manifest) :: .said (.version version) ::
        (supplying ++ back)))) where
  notice := by simp [before.notice, supplied.notice, behind.notice, notice?]
  found := by simp [before.found, supplied.found, behind.found, found?]
  cached := by
    have still : fetches (.said (.found changelog) ::
        (front ++ (.said (.usingManifest manifest) :: .said (.version version) ::
          (supplying ++ back)))) = fetches supplying := by
      have fetch := before.still
      have fetch' := behind.still
      simp only [fetches] at fetch fetch' ⊢
      simp [fetch, fetch']
    rw [still]
    simp [before.cached, supplied.cached, behind.cached, cached?]

/-- A block tells of its changelog first, and of a jar that is there where that is why no
download is asked for. -/
theorem convertOne_tells (tools : Toolchain σ) (root : Path) (leg : Leg σ) :
    Tells tools (convertOne tools root leg.progress leg.changelog) leg.world fun _ events =>
      InBlock leg.changelog (leg.jar? tools root) events := by
  refine Tells.say rfl ((resolve_tells ..).bind ?_ ?_)
  · intro failure middle events performed quiet
    have unresolved : leg.jar? tools root = none := by simp only [Leg.jar?, performed]
    exact unresolved ▸ block_unresolved quiet
  · rintro ⟨resolution, memo⟩ middle front performed quiet
    have resolved : leg.jar? tools root = some (leg.progress.store.jar resolution.version) := by
      simp only [Leg.jar?, performed]
    rw [resolved]
    dsimp only
    split
    · refine .note _ (.say rfl (.say rfl ((supply_tells ..).mono ?_)))
      rintro _ _ ⟨supplying, back, rfl, supplied, behind⟩
      rw [← List.append_assoc front]
      exact block_resolved (quiet.append (quiet_recorded _)) supplied behind _ _
    · refine .say rfl (.say rfl ((supply_tells ..).mono ?_))
      rintro _ _ ⟨supplying, back, rfl, supplied, behind⟩
      exact block_resolved quiet supplied behind _ _

theorem leg_tells (tools : Toolchain σ) (root : Path) (leg : Leg σ) :
    Tells tools (convertOne tools root leg.progress leg.changelog) leg.world fun _ events =>
      events = leg.events tools root ∧
        InBlock leg.changelog (leg.jar? tools root) (leg.events tools root) := by
  obtain ⟨events, calls, ended, passage, block⟩ := convertOne_tells tools root leg
  have own : leg.events tools root = events := by
    rw [Leg.events, Leg.ending, passage.added, List.drop_left]
  exact ⟨events, calls, ended, passage, own.symm, own ▸ block⟩

theorem Halted.cons {leg : Leg σ} {blocks : List (Leg σ)} {outcome : Except Failure α}
    (well : (leg.ending tools root).1.toBool = true)
    (halted : Halted tools root changelogs blocks outcome) :
    Halted tools root (leg.changelog :: changelogs) (leg :: blocks) outcome := by
  cases halted with
  | finished whole others =>
    exact .finished (congrArg _ whole) (List.forall_mem_cons.mpr ⟨well, others⟩)
  | @failed earlier last later failure others fails through =>
    have behind : Halted tools root (leg.changelog :: changelogs) ((leg :: earlier) ++ [last])
        (.error failure : Except Failure α) :=
      .failed (List.forall_mem_cons.mpr ⟨well, others⟩) fails (congrArg _ through)
    exact behind

/-- The events of a run over some changelogs are those of its blocks, and it stops with them. -/
structure InBlocks (tools : Toolchain σ) (root : Path) (changelogs : List Path)
    (blocks : List (Leg σ)) (outcome : Except Failure α) (events : List Event) : Prop where
  whole : events = blocks.flatMap (Leg.events tools root)
  each : ∀ leg ∈ blocks, InBlock leg.changelog (leg.jar? tools root) (leg.events tools root)
  halted : Halted tools root changelogs blocks outcome

theorem InBlocks.map {blocks : List (Leg σ)} {outcome : Except Failure α}
    (inBlocks : InBlocks tools root changelogs blocks outcome events) (f : α → β) :
    InBlocks tools root changelogs blocks (outcome.map f) events := by
  obtain ⟨whole, each, halted⟩ := inBlocks
  refine ⟨whole, each, ?_⟩
  cases halted with
  | finished all well => exact .finished all well
  | failed well fails through => exact .failed well fails through

/-- The loop tells of its blocks one after the other, by induction on the changelogs. -/
theorem loop_tells (tools : Toolchain σ) (root : Path) (changelogs : List Path) (progress : Progress)
    (world : World σ) :
    Tells tools (changelogs.foldlM (convertOne tools root) progress) world
      (InBlocks tools root changelogs (legs tools root changelogs progress world)) := by
  induction changelogs generalizing progress world with
  | nil => exact .pure ⟨rfl, nofun, .finished rfl nofun⟩
  | cons changelog rest ih =>
    let leg : Leg σ := ⟨changelog, progress, world⟩
    rw [List.foldlM_cons]
    refine (leg_tells tools root leg).bind ?_ ?_
    · intro failure middle events performed ⟨own, block⟩
      have ending : leg.ending tools root = (.error failure, middle) := performed
      have only : legs tools root (changelog :: rest) progress world = [leg] := by
        simp only [legs, leg, ending]
      have halted : Halted tools root (changelog :: rest) ([] ++ [leg])
          (.error failure : Except Failure Progress) :=
        .failed nofun (by rw [ending]) rfl
      rw [only]
      exact ⟨by simp [own], by simpa using block, halted⟩
    · intro progress' middle events performed ⟨own, block⟩
      have ending : leg.ending tools root = (.ok progress', middle) := performed
      have first : legs tools root (changelog :: rest) progress world =
          leg :: legs tools root rest progress' middle := by
        simp only [legs, leg, ending]
      rw [first]
      refine (ih progress' middle).mono ?_
      rintro outcome more ⟨rfl, others, halted⟩
      exact ⟨by simp [own], List.forall_mem_cons.mpr ⟨block, others⟩,
        .cons (by rw [ending]; rfl) halted⟩

/-- The summary that is returned behind the loop tells nothing. -/
theorem summary_tells (tools : Toolchain σ) (root : Path) (changelogs : List Path)
    (progress : Progress) (world : World σ) :
    Tells tools
      (do
        let progress ← changelogs.foldlM (convertOne tools root) progress
        return progress.summary)
      world (InBlocks tools root changelogs (legs tools root changelogs progress world)) := by
  refine (loop_tells ..).bind ?_ ?_
  · exact fun failure _ events _ inBlocks => inBlocks.map Progress.summary
  · intro progress' _ events _ inBlocks
    refine .pure ?_
    rw [List.append_nil]
    exact inBlocks.map Progress.summary

/-- The changelogs of a run: the tree is checked, and then searched. -/
def collect (tools : Toolchain σ) (root : Path) : Action σ (List Path) := do
  guard tools root
  discover root

/-- What a run tells and records between its search and its first block. -/
def opening (settings : Settings) (changelogs : List Path) : List Event :=
  recorded [.debug .run ("Found " ++ toString changelogs.length ++ " migration(s) under "
    ++ settings.root.shown)] ++
  if changelogs.isEmpty then [.said (.noChangelogs settings.root)] else []

/-- The blocks of a run. -/
def blocks (tools : Toolchain σ) (settings : Settings) (world : World σ) : List (Leg σ) :=
  match (collect tools settings.root).perform world with
  | (.ok changelogs, searched) =>
    legs tools settings.root changelogs (Progress.start settings)
      (searched.add (opening settings changelogs))
  | (.error _, _) => []

/-- The notice that nothing was found is due where the tree was checked and its search returned no
changelog. -/
def dueNotice (tools : Toolchain σ) (settings : Settings) (world : World σ) : List Path :=
  match ((collect tools settings.root).perform world).1 with
  | .ok [] => [settings.root]
  | _ => []

theorem collect_tells (tools : Toolchain σ) (root : Path) (world : World σ) :
    Tells tools (collect tools root) world fun _ events => Quiet events := by
  let reply := tools.workingTree root world.view world.memory
  let call : Call σ := ⟨momentOf world, .workingTree root reply.answer, ⟨reply.disk, reply.memory⟩⟩
  have asking : Tells tools (tools.askWorkingTree root) world _ :=
    Tells.ask call (.askWorkingTree ⟨rfl, rfl, rfl⟩) rfl
  have guarding : Tells tools (guard tools root) world fun _ events => Quiet events := by
    refine asking.bind (fun _ _ _ _ holds => holds.2) fun inside middle events _ ⟨_, quiet⟩ => ?_
    cases inside with
    | false => exact .throw (quiet.append quiet_nil)
    | true =>
      rw [if_pos rfl, ← bind_pure (Action.note _)]
      exact .note _ (.pure (quiet.append ((quiet_recorded _).append quiet_nil)))
  refine guarding.bind (fun _ _ _ _ quiet => quiet) fun _ middle events _ quiet => Tells.view ?_
  dsimp only
  refine .note _ ?_
  cases (Discovery.changelogs middle.view root).1 with
  | error failure => exact .throw (quiet.append ((quiet_recorded _).append quiet_nil))
  | ok changelogs => exact .pure (quiet.append ((quiet_recorded _).append quiet_nil))

/-- How a run is made up of what comes before its blocks and of its blocks. -/
structure Composed (tools : Toolchain σ) (settings : Settings) (world : World σ)
    (outcome : Except Failure Summary) (events : List Event) : Prop where
  ahead : ∃ front, events = front ++
      (blocks tools settings world).flatMap (Leg.events tools settings.root) ∧
    told notice? front = dueNotice tools settings world ∧
    told found? front = [] ∧ told cached? front = []
  each : ∀ leg ∈ blocks tools settings world,
    InBlock leg.changelog (leg.jar? tools settings.root) (leg.events tools settings.root)
  halted : match ((collect tools settings.root).perform world).1 with
    | .ok changelogs => Halted tools settings.root changelogs (blocks tools settings world) outcome
    | .error failure => blocks tools settings world = [] ∧ outcome = .error failure

/-- What a run does between its search and its first block. -/
theorem Tells.before_blocks {settings : Settings} {changelogs : List Path} {next : Action σ β}
    {about : Except Failure β → List Event → Prop}
    (second : Tells tools next (world.add (opening settings changelogs)) fun outcome events =>
      about outcome (opening settings changelogs ++ events)) :
    Tells tools
      (do
        Action.note [.debug .run ("Found " ++ toString changelogs.length ++ " migration(s) under "
          ++ settings.root.shown)]
        if changelogs.isEmpty then
          Action.say (.noChangelogs settings.root)
        next)
      world about := by
  cases changelogs with
  | nil =>
    refine .note _ (.say rfl ?_)
    simpa [World.add, opening] using second
  | cons changelog rest =>
    refine .note _ ?_
    simpa [opening] using second

theorem run_tells (tools : Toolchain σ) (settings : Settings) (world : World σ) :
    Tells tools (run tools settings) world (Composed tools settings world) := by
  have begun : run tools settings = do
      let changelogs ← collect tools settings.root
      Action.note [.debug .run ("Found " ++ toString changelogs.length ++ " migration(s) under "
        ++ settings.root.shown)]
      if changelogs.isEmpty then
        Action.say (.noChangelogs settings.root)
      let progress ← changelogs.foldlM (convertOne tools settings.root) (Progress.start settings)
      return progress.summary := by
    simp only [run, collect, bind_assoc]
  rw [begun]
  refine (collect_tells ..).bind ?_ ?_
  · intro failure middle events performed quiet
    have none : blocks tools settings world = [] := by simp only [blocks, performed]
    exact ⟨⟨events, by simp [none], by simp [dueNotice, performed, quiet.notice], quiet.found,
      quiet.cached⟩, by simp [none], by simp [performed, none]⟩
  · intro changelogs middle front performed quiet
    refine Tells.before_blocks ((summary_tells ..).mono ?_)
    rintro outcome _ ⟨rfl, each, halted⟩
    have reached : blocks tools settings world = legs tools settings.root changelogs
        (Progress.start settings) (middle.add (opening settings changelogs)) := by
      simp only [blocks, performed]
    rw [← reached] at each halted ⊢
    refine ⟨⟨front ++ opening settings changelogs, (List.append_assoc ..).symm, ?_, ?_, ?_⟩, each, ?_⟩
    · rw [told_append, quiet.notice, dueNotice, performed]
      cases changelogs <;> rfl
    · rw [told_append, quiet.found]
      cases changelogs <;> rfl
    · rw [told_append, quiet.cached]
      cases changelogs <;> rfl
    · rwa [performed]

/-- How the messages of a run agree with its calls, with their answers and with its end. -/
structure Faithful (tools : Toolchain σ) (settings : Settings) (world : World σ)
    (outcome : Except Failure Summary) (events : List Event) (calls : List (Call σ)) : Prop
    extends Composed tools settings world outcome events where
  converted : told converted? events =
    (calls.filterMap success?).map fun changelog => (changelog, Output.pathFor changelog)
  announced : ∀ front url destination back, events = front ++ .asked (.download url destination) :: back →
    front.getLast? = some (.said (.downloadingJar destination))
  fetched : ∀ front jar back, events = front ++ .said (.downloadingJar jar) :: back →
    ∃ url, back.head? = some (.asked (.download url jar))
  outputs : told output? events = calls.filterMap unfetched?
  ended : ∀ output ∈ told output? events, told output? events = [output] ∧
    events.getLast? = some (.said (.downloadOutput output)) ∧ outcome.toBool = false
  found : told found? events = (blocks tools settings world).map Leg.changelog
  notice : told notice? events = dueNotice tools settings world

theorem told_flatMap {read : Message → Option β} {blocks : List (Leg σ)}
    {events : Leg σ → List Event} {said : Leg σ → List β}
    (each : ∀ leg ∈ blocks, told read (events leg) = said leg) :
    told read (blocks.flatMap events) = blocks.flatMap said := by
  induction blocks with
  | nil => rfl
  | cons leg blocks ih =>
    obtain ⟨first, others⟩ := List.forall_mem_cons.mp each
    rw [List.flatMap_cons, told_append, first, ih others, List.flatMap_cons]

theorem Composed.found {outcome : Except Failure Summary}
    (composed : Composed tools settings world outcome events) :
    told found? events = (blocks tools settings world).map Leg.changelog := by
  obtain ⟨front, rfl, -, silent, -⟩ := composed.ahead
  rw [told_append, silent, told_flatMap fun leg member => (composed.each leg member).found,
    List.nil_append, List.map_eq_flatMap]

theorem Composed.notice {outcome : Except Failure Summary}
    (composed : Composed tools settings world outcome events) :
    told notice? events = dueNotice tools settings world := by
  obtain ⟨front, rfl, opened, -⟩ := composed.ahead
  rw [told_append, told_flatMap fun leg member => (composed.each leg member).notice,
    List.flatMap_eq_nil_iff.mpr fun _ _ => rfl, List.append_nil, opened]

/-- The messages of every run agree with what it has done, however it ends and whatever its
collaborators do. -/
theorem messages_agree (tools : Toolchain σ) (settings : Settings) (world : World σ) :
    ∃ events calls, ((run tools settings).perform world).2.events = world.events ++ events ∧
      Accounts tools world ((run tools settings).perform world).2 calls ∧
      Faithful tools settings world ((run tools settings).perform world).1 events calls := by
  obtain ⟨events, calls, ended, passage, composed⟩ := run_tells tools settings world
  obtain ⟨outputs, unfetched, last⟩ := passage.telling.outputs
  refine ⟨events, calls, passage.added, passage.account,
    { composed with
      converted := passage.telling.conversions
      announced := fun _ _ _ _ => passage.telling.announced.before
      fetched := fun _ _ _ => passage.telling.announced.behind
      outputs := outputs.trans unfetched.symm
      ended := ?_
      found := composed.found
      notice := composed.notice }⟩
  intro output member
  rw [outputs, Option.mem_toList] at member
  cases member
  refine ⟨outputs, last output rfl, ?_⟩
  by_contra well
  exact nomatch passage.unended ((Bool.not_eq_false _).mp well)

end Blocks

end ChangelogSql.RunMessages
