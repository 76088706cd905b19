import ChangelogSql.Proofs.DiscoveryExactness

/-! What the visitor of a walk gets to see. Two things end a walk: a candidate that
cannot be read, and a refusal by the visitor. Whichever is met first is what the walk
comes to, the visitor has been called on the changelogs up to there and on nothing
else, and nothing that lies behind has been opened. -/
namespace ChangelogSql.VisitorCalls
open Files Discovery TreeWalk DiscoveryExactness

variable {σ τ : Type}

/-- A candidate that can be read and has the marker. -/
def isChangelog (view : View) (root path : Path) : Bool :=
  isCandidate view root path &&
    match view.read path with
    | .ok content => isMarked content
    | .error _ => false

/-- What a visitor has been called on, and what it answered. -/
abbrev Calls := List (Path × Except Failure Unit)

/-- A visitor that keeps account of its calls. -/
def accounted (visitor : Visitor σ) : Visitor (σ × Calls) := fun path memory =>
  let (answer, state) := visitor path memory.1
  (answer, state, memory.2 ++ [(path, answer)])

/-- Gives the content of a file, and may remember having been asked for it. -/
abbrev Reader (τ : Type) := Path → τ → Except Fault Bytes × τ

/-- Reads as the disk has it, and keeps a list of what was opened. -/
def opening (view : View) : Reader (List Path) := fun path opened =>
  (view.read path, opened ++ [path])

/-- The walk over some entries when every content is asked of a reader: what it comes to,
and what the visitor and the reader know in the end. -/
def readAlong (view : View) (reader : Reader τ) (root : Path) (visitor : Visitor σ) :
    List Path → σ → Nat → τ → Except Failure Nat × σ × τ
  | [], state, found, memory => (.ok found, state, memory)
  | path :: entries, state, found, memory =>
    if isCandidate view root path then
      match reader path memory with
      | (.error fault, memory) => (.error (.unreadable path fault), state, memory)
      | (.ok content, memory) =>
        if isMarked content then
          match visitor path state with
          | (.error failure, state) => (.error failure, state, memory)
          | (.ok (), state) => readAlong view reader root visitor entries state (found + 1) memory
        else readAlong view reader root visitor entries state found memory
    else readAlong view reader root visitor entries state found memory

/-- What there is to tell of a walk. -/
structure Account (σ : Type) where
  outcome : Except Failure Nat
  state : σ
  calls : Calls
  opened : List Path

/-- The account of a walk by some visits. -/
def account (view : View) (root : Path) (visitor : Visitor σ) (state : σ) (visits : List Visit) :
    Account σ :=
  let scan := Scan.along view root (accounted visitor) visits (state, []) 0
  let (_, _, opened) :=
    readAlong view (opening view) root (accounted visitor) (visited visits) (state, []) 0 []
  ⟨scan.outcome, scan.state.1, scan.state.2, opened⟩

/-- A visitor takes some paths, one after the other. -/
inductive Takes (visitor : Visitor σ) : σ → List Path → σ → Prop where
  | nothing (state : σ) : Takes visitor state [] state
  | more {path paths state next last} (taken : visitor path state = (.ok (), next))
      (rest : Takes visitor next paths last) : Takes visitor state (path :: paths) last

/-- The calls of a visitor that takes what it is called on. -/
def taken (paths : List Path) : Calls :=
  paths.map fun path => (path, .ok ())

/-- The walk comes past some entries: no candidate among them ends it, and the visitor takes
the changelogs among them. -/
structure Passed (view : View) (root : Path) (visitor : Visitor σ) (state : σ)
    (entries : List Path) (last : σ) : Prop where
  readable : ∀ path ∈ entries, isCandidate view root path = true →
    ∃ content, view.read path = .ok content
  taken : Takes visitor state (entries.filter (isChangelog view root)) last

/-- How a walk over some entries ends: with the last of them, with the first changelog that
is refused, or with the first candidate that cannot be read. -/
inductive Ending (view : View) (root : Path) (visitor : Visitor σ) (state : σ) :
    List Path → Account σ → Prop where
  | through {entries last} (passed : Passed view root visitor state entries last) :
      Ending view root visitor state entries
        ⟨.ok (entries.filter (isChangelog view root)).length, last,
          taken (entries.filter (isChangelog view root)),
          entries.filter (isCandidate view root)⟩
  | refused {before path after mid last failure}
      (passed : Passed view root visitor state before mid)
      (changelog : isChangelog view root path = true)
      (refuses : visitor path mid = (.error failure, last)) :
      Ending view root visitor state (before ++ path :: after)
        ⟨.error failure, last,
          taken (before.filter (isChangelog view root)) ++ [(path, .error failure)],
          (before ++ [path]).filter (isCandidate view root)⟩
  | unreadable {before path after mid fault}
      (passed : Passed view root visitor state before mid)
      (candidate : isCandidate view root path = true) (lost : view.read path = .error fault) :
      Ending view root visitor state (before ++ path :: after)
        ⟨.error (.unreadable path fault), mid, taken (before.filter (isChangelog view root)),
          (before ++ [path]).filter (isCandidate view root)⟩

/-- A walk over some entries begins with those in `front`, and they look as they do in
another view: the same are files, and those that are opened have the same content. -/
structure BeginsAlike (view view' : View) (root : Path) (front entries : List Path) : Prop where
  begins : front <+: entries
  file : ∀ path ∈ front, view'.isFile path = view.isFile path
  content : ∀ path ∈ front, isCandidate view root path = true → view'.read path = view.read path

variable {view view' : View} {root path : Path} {visitor : Visitor σ} {reader : Reader τ}
variable {state mid last : σ} {entries before after paths more : List Path} {memory : τ}
variable {told : Account σ} {found : Nat} {content : Bytes} {fault : Fault} {failure : Failure}
variable {calls : Calls} {opened : List Path} {visits visits' : List Visit}

theorem isChangelog_of_read (candidate : isCandidate view root path = true)
    (read : view.read path = .ok content) : isChangelog view root path = isMarked content := by
  rw [isChangelog, candidate, read, Bool.true_and]

theorem isCandidate_of_isChangelog (changelog : isChangelog view root path = true) :
    isCandidate view root path = true :=
  (Bool.and_eq_true _ _ ▸ changelog).1

theorem read_of_isChangelog (changelog : isChangelog view root path = true) :
    ∃ content, view.read path = .ok content ∧ isMarked content = true := by
  have marked := (Bool.and_eq_true _ _ ▸ changelog).2
  split at marked
  next content read => exact ⟨content, read, marked⟩
  next => cases marked

theorem judge_changelog_eq :
    judge view root path = .changelog ↔ isChangelog view root path = true := by
  cases candidate : isCandidate view root path with
  | false =>
    rcases judge_unopened candidate with verdict | verdict <;>
      simp [verdict, isChangelog, candidate]
  | true =>
    rw [judge_opened candidate, isChangelog, candidate, Bool.true_and]
    cases view.read path with
    | error fault => simp
    | ok content => simp

/-- With a reader that answers as the disk, the walk over its entries is the walk by its visits. -/
theorem readAlong_eq (root : Path) (visitor : Visitor σ)
    (truthful : ∀ path memory, (reader path memory).1 = view.read path)
    (visits : List Visit) (state : σ) (found : Nat) (memory : τ) :
    let scan := Scan.along view root visitor visits state found
    ∃ after, readAlong view reader root visitor (visited visits) state found memory =
      (scan.outcome, scan.state, after) := by
  induction visits generalizing state found memory with
  | nil => exact ⟨memory, rfl⟩
  | cons visit visits ih =>
    cases visit with
    | unreadable path fault => exact ih state found memory
    | entry path =>
      rw [visited_entry, readAlong]
      simp only [Scan.along]
      cases candidate : isCandidate view root path with
      | false =>
        rcases judge_unopened candidate with verdict | verdict <;> rw [verdict] <;>
          exact ih state found memory
      | true =>
        obtain ⟨later, answer⟩ : ∃ later, reader path memory = (view.read path, later) :=
          ⟨(reader path memory).2, Prod.ext (truthful path memory) rfl⟩
        rw [judge_opened candidate, if_pos rfl, answer]
        cases view.read path with
        | error fault => exact ⟨later, rfl⟩
        | ok content =>
          cases marked : isMarked content with
          | false => simpa [marked] using ih state found later
          | true =>
            simp only [marked, ↓reduceIte]
            obtain ⟨answer, next⟩ := visitor path state
            cases answer with
            | error failure => exact ⟨later, rfl⟩
            | ok _ => exact ih next (found + 1) later

theorem Takes.append (first : Takes visitor state paths mid) (rest : Takes visitor mid more last) :
    Takes visitor state (paths ++ more) last := by
  induction first with
  | nothing => exact rest
  | more taken _ ih => exact .more taken (ih rest)

theorem Passed.append (first : Passed view root visitor state before mid)
    (rest : Passed view root visitor mid after last) :
    Passed view root visitor state (before ++ after) last where
  readable := List.forall_mem_append.mpr ⟨first.readable, rest.readable⟩
  taken := by
    rw [List.filter_append]
    exact first.taken.append rest.taken

/-- One entry is passed if it is no changelog and no candidate that cannot be read, and
leaves the visitor as it was. -/
theorem passed_quiet
    (readable : isCandidate view root path = true → ∃ content, view.read path = .ok content)
    (other : isChangelog view root path = false) : Passed view root visitor state [path] state where
  readable := by simpa using readable
  taken := by
    rw [List.filter_singleton, other]
    exact .nothing state

theorem passed_taken (changelog : isChangelog view root path = true)
    (taken : visitor path state = (.ok (), mid)) : Passed view root visitor state [path] mid where
  readable := by
    obtain ⟨content, read, -⟩ := read_of_isChangelog changelog
    simp [read]
  taken := by
    rw [List.filter_singleton, changelog]
    exact .more taken (.nothing mid)

/-- The account of a walk that goes on behind some entries. -/
theorem Ending.behind (passed : Passed view root visitor state before mid)
    (ending : Ending view root visitor mid entries told) :
    ∃ told, Ending view root visitor state (before ++ entries) told := by
  cases ending with
  | through rest => exact ⟨_, .through (passed.append rest)⟩
  | refused rest changelog refuses =>
    rw [← List.append_assoc]
    exact ⟨_, .refused (passed.append rest) changelog refuses⟩
  | unreadable rest candidate lost =>
    rw [← List.append_assoc]
    exact ⟨_, .unreadable (passed.append rest) candidate lost⟩

/-- Every walk ends in one of the three ways. -/
theorem ending_total (view : View) (root : Path) (visitor : Visitor σ) (state : σ)
    (entries : List Path) : ∃ told, Ending view root visitor state entries told := by
  have nothing (state : σ) : Passed view root visitor state [] state := ⟨by simp, .nothing state⟩
  induction entries generalizing state with
  | nil => exact ⟨_, .through (nothing state)⟩
  | cons path entries ih =>
    cases changelog : isChangelog view root path with
    | true =>
      cases answer : visitor path state with
      | mk answered next =>
        cases answered with
        | ok _ =>
          obtain ⟨told, ending⟩ := ih next
          exact ending.behind (passed_taken changelog answer)
        | error failure => exact ⟨_, .refused (nothing state) changelog answer⟩
    | false =>
      by_cases readable :
        isCandidate view root path = true → ∃ content, view.read path = .ok content
      · obtain ⟨told, ending⟩ := ih state
        exact ending.behind (passed_quiet readable changelog)
      · obtain ⟨candidate, unread⟩ := Classical.not_imp.mp readable
        cases lost : view.read path with
        | ok content => exact absurd ⟨content, lost⟩ unread
        | error fault => exact ⟨_, .unreadable (nothing state) candidate lost⟩

theorem accounted_eq (visitor : Visitor σ) (path : Path) (state : σ) (calls : Calls) :
    accounted visitor path (state, calls) =
      ((visitor path state).1, (visitor path state).2,
        calls ++ [(path, (visitor path state).1)]) := rfl

/-- A walk past some entries has opened the candidates among them, has called the visitor on
the changelogs, and goes on from there. -/
theorem readAlong_passed (passed : Passed view root visitor state before mid) (after : List Path)
    (found : Nat) (calls : Calls) (opened : List Path) :
    readAlong view (opening view) root (accounted visitor) (before ++ after) (state, calls) found
        opened =
      readAlong view (opening view) root (accounted visitor) after
        (mid, calls ++ taken (before.filter (isChangelog view root)))
        (found + (before.filter (isChangelog view root)).length)
        (opened ++ before.filter (isCandidate view root)) := by
  induction before generalizing state found calls opened with
  | nil =>
    obtain ⟨-, takes⟩ := passed
    cases takes
    simp [taken]
  | cons path before ih =>
    obtain ⟨readable, takes⟩ := passed
    obtain ⟨first, others⟩ := List.forall_mem_cons.mp readable
    rw [List.cons_append, readAlong, List.filter_cons (p := isCandidate view root),
      List.filter_cons (p := isChangelog view root)]
    rw [List.filter_cons] at takes
    cases candidate : isCandidate view root path with
    | false =>
      have other : isChangelog view root path = false := by
        rw [isChangelog, candidate, Bool.false_and]
      simp only [other, Bool.false_eq_true, ↓reduceIte] at takes ⊢
      exact ih ⟨others, takes⟩ found calls opened
    | true =>
      obtain ⟨content, read⟩ := first candidate
      have told := isChangelog_of_read candidate read
      simp only [opening, read, ↓reduceIte]
      cases marked : isMarked content with
      | false =>
        simp only [told, marked, Bool.false_eq_true, ↓reduceIte] at takes ⊢
        rw [ih ⟨others, takes⟩ found calls (opened ++ [path])]
        simp
      | true =>
        simp only [told, marked, ↓reduceIte] at takes ⊢
        cases takes with
        | more answered rest =>
          rw [accounted_eq, answered]
          refine (ih ⟨others, rest⟩ (found + 1) _ _).trans ?_
          simp [taken, Nat.add_assoc, Nat.add_comm]

/-- The walk of an ending comes to what the ending tells. -/
theorem Ending.readAlong_eq (ending : Ending view root visitor state entries told) :
    readAlong view (opening view) root (accounted visitor) entries (state, []) 0 [] =
      (told.outcome, (told.state, told.calls), told.opened) := by
  cases ending with
  | through passed =>
    have walked := readAlong_passed passed [] 0 [] []
    rw [List.append_nil] at walked
    simp [walked, readAlong]
  | refused passed changelog refuses =>
    obtain ⟨content, read, marked⟩ := read_of_isChangelog changelog
    have candidate := isCandidate_of_isChangelog changelog
    rw [readAlong_passed passed]
    simp [readAlong, candidate, opening, read, marked, accounted_eq, refuses]
  | unreadable passed candidate lost =>
    rw [readAlong_passed passed]
    simp [readAlong, candidate, opening, lost]

theorem account_eq (view : View) (root : Path) (visitor : Visitor σ) (state : σ)
    (visits : List Visit) :
    let told := account view root visitor state visits;
    readAlong view (opening view) root (accounted visitor) (visited visits) (state, []) 0 [] =
      (told.outcome, (told.state, told.calls), told.opened) := by
  have truthful (path : Path) (opened : List Path) :
      (opening view path opened).1 = view.read path := rfl
  obtain ⟨after, same⟩ :=
    readAlong_eq root (accounted visitor) truthful visits (state, []) 0 []
  simp only [account]
  rw [same]

/-- The account of a walk is that of the one way in which it ends. -/
theorem ending_iff : Ending view root visitor state (visited visits) told ↔
    account view root visitor state visits = told := by
  have unique {told : Account σ} (ending : Ending view root visitor state (visited visits) told) :
      account view root visitor state visits = told := by
    have same := (account_eq view root visitor state visits).symm.trans ending.readAlong_eq
    simp only [Prod.mk.injEq] at same
    obtain ⟨outcome, ⟨state, calls⟩, opened⟩ := same
    cases told
    simp_all [account]
  refine ⟨unique, ?_⟩
  rintro rfl
  obtain ⟨told, ending⟩ := ending_total view root visitor state (visited visits)
  exact unique ending ▸ ending

/-- Keeping account of its calls makes no difference to a visitor or to the walk. -/
theorem along_accounted (view : View) (root : Path) (visitor : Visitor σ) (visits : List Visit)
    (state : σ) (calls : Calls) (found : Nat) :
    let scan := Scan.along view root visitor visits state found
    ∃ calls', Scan.along view root (accounted visitor) visits (state, calls) found =
      ⟨scan.outcome, (scan.state, calls'), scan.records⟩ := by
  induction visits generalizing state calls found with
  | nil => exact ⟨calls, rfl⟩
  | cons visit visits ih =>
    have noted {record : Record} :
        let scan := Scan.noting record (Scan.along view root visitor visits state found)
        let along := Scan.along view root (accounted visitor) visits (state, calls) found
        ∃ calls',
          Scan.noting record along = ⟨scan.outcome, (scan.state, calls'), scan.records⟩ := by
      obtain ⟨calls', same⟩ := ih state calls found
      exact ⟨calls', by rw [same]; rfl⟩
    cases visit with
    | unreadable path fault => exact noted
    | entry path =>
      simp only [Scan.along]
      cases judge view root path with
      | other | unmarked => exact ih state calls found
      | buildOutput => exact noted
      | unreadable fault => exact ⟨calls, rfl⟩
      | changelog =>
        simp only [accounted_eq]
        obtain ⟨answer, next⟩ := visitor path state
        cases answer with
        | error failure => exact ⟨_, rfl⟩
        | ok _ => exact ih next _ (found + 1)

theorem BeginsAlike.candidate (alike : BeginsAlike view view' root before entries)
    (member : path ∈ before) : isCandidate view' root path = isCandidate view root path := by
  rw [isCandidate, isCandidate, alike.file path member]

theorem BeginsAlike.changelog (alike : BeginsAlike view view' root before entries)
    (member : path ∈ before) : isChangelog view' root path = isChangelog view root path := by
  rw [isChangelog, isChangelog, alike.candidate member]
  cases candidate : isCandidate view root path with
  | false => rfl
  | true => rw [alike.content path member candidate]

/-- What has been passed in one view has been passed in any other that is like it up to there. -/
theorem Passed.alike (passed : Passed view root visitor state before mid)
    (alike : BeginsAlike view view' root (before ++ more) entries) :
    Passed view' root visitor state before mid where
  readable path member candidate := by
    have inFront : path ∈ before ++ more := List.mem_append_left _ member
    rw [alike.candidate inFront] at candidate
    rw [alike.content path inFront candidate]
    exact passed.readable path member candidate
  taken := by
    rw [List.filter_congr fun path member => alike.changelog (List.mem_append_left more member)]
    exact passed.taken

/-- A refusal is told by what lies in front of it. Whatever comes behind the changelog that
is refused, and whatever it holds, the walk is the same. -/
theorem refused_alike (passed : Passed view root visitor state before mid)
    (changelog : isChangelog view root path = true)
    (refuses : visitor path mid = (.error failure, last))
    (alike : BeginsAlike view view' root (before ++ [path]) entries) :
    Ending view' root visitor state entries
      ⟨.error failure, last,
        taken (before.filter (isChangelog view root)) ++ [(path, .error failure)],
        (before ++ [path]).filter (isCandidate view root)⟩ := by
  obtain ⟨after, rfl⟩ := alike.begins
  have same := alike.changelog (List.mem_append_right before (List.mem_singleton_self path))
  have ending : Ending view' root visitor state (before ++ path :: after) _ :=
    .refused (passed.alike alike) (same.trans changelog) refuses
  rw [List.filter_congr fun path member => alike.candidate member,
    List.filter_congr fun path member =>
      alike.changelog (List.mem_append_left [_] member)] at ending
  rwa [List.append_assoc, List.singleton_append]

/-- If a call is refused, it is the last one, its failure is what the walk comes to, and the
calls were for the first changelogs. Nothing behind has been opened, or makes a difference. -/
theorem Ending.of_refusal (ending : Ending view root visitor state entries told) {k : Nat}
    (refused : told.calls[k]? = some (path, .error failure)) :
    told.outcome = .error failure ∧
    told.calls.map Prod.fst = (entries.filter (isChangelog view root)).take (k + 1) ∧
    ∃ before after, entries = before ++ path :: after ∧
      told.opened = (before ++ [path]).filter (isCandidate view root) ∧
      ∀ view' entries', BeginsAlike view view' root (before ++ [path]) entries' →
        Ending view' root visitor state entries' told := by
  have accepted {paths : List Path} {k : Nat} :
      (taken paths)[k]? ≠ some (path, .error failure) := by
    simp [taken]
  cases ending with
  | through => exact absurd refused accepted
  | unreadable => exact absurd refused accepted
  | @refused before first after mid last failure' passed changelog refuses =>
    rw [List.getElem?_append] at refused
    split at refused
    · exact absurd refused accepted
    rw [List.getElem?_singleton] at refused
    split at refused
    next within place =>
      cases refused
      have position : k = (before.filter (isChangelog view root)).length := by
        rw [taken, List.length_map] at within place
        omega
      refine ⟨rfl, ?_, before, after, rfl, rfl, fun view' entries' =>
        refused_alike passed changelog refuses⟩
      have whole : (before ++ path :: after).filter (isChangelog view root) =
          before.filter (isChangelog view root) ++
            path :: after.filter (isChangelog view root) := by
        rw [List.filter_append, List.filter_cons_of_pos changelog]
      rw [whole, position, List.take_length_add_append]
      simp [taken, Function.comp_def]
    · cases refused

/-- Visits come to a list if every candidate can be read, and then to the changelogs. -/
theorem collected_iff {found : List Path} : collected view root visits = .ok found ↔
    (∀ path ∈ visited visits, isCandidate view root path = true →
      ∃ content, view.read path = .ok content) ∧
    found = (visited visits).filter (isChangelog view root) := by
  have readable (path : Path) : Readable view root path ↔
      (isCandidate view root path = true → ∃ content, view.read path = .ok content) := by
    cases candidate : isCandidate view root path with
    | false =>
      rcases judge_unopened candidate with verdict | verdict <;> simp [Readable, verdict]
    | true =>
      rw [Readable, judge_opened candidate]
      cases view.read path with
      | error fault => simp
      | ok content => cases marked : isMarked content <;> simp [marked]
  have changelog :
      (fun path => decide (judge view root path = .changelog)) = isChangelog view root :=
    funext fun path => by rw [Bool.eq_iff_iff, decide_eq_true_iff, judge_changelog_eq]
  rw [collected_ok_iff, changelog]
  simp only [readable]

/-- If nothing is refused and every candidate can be read, the visitor has been called on all
that is collected. -/
theorem Ending.of_success (ending : Ending view root visitor state (visited visits) told)
    (readable : ∀ path ∈ visited visits, isCandidate view root path = true →
      ∃ content, view.read path = .ok content)
    (accepted : ∀ call ∈ told.calls, call.2 = .ok ()) :
    ∃ found, collected view root visits = .ok found ∧ told.calls.map Prod.fst = found ∧
      told.outcome = .ok found.length := by
  refine ⟨_, collected_iff.mpr ⟨readable, rfl⟩, ?_⟩
  generalize visited visits = entries at ending readable
  cases ending with
  | through passed => simp [taken, Function.comp_def]
  | refused =>
    cases accepted _ (List.mem_append_right _ (List.mem_singleton_self _))
  | unreadable passed candidate lost =>
    obtain ⟨content, read⟩ := readable _ (by simp) candidate
    rw [lost] at read
    cases read

/-- A walk ends in one of three ways, told by what lies on it: with a refusal, with a
candidate that cannot be read, or with its last entry, whichever comes first. When a call
is refused, the walk comes to its failure, the calls were for the first changelogs, no
candidate behind has been opened, and whatever lies there makes no difference. When a
candidate cannot be read before that, the visitor has been called on the changelogs in
front of it. When neither happens, it has been called on all that is collected. None of
this depends on the account that is kept of it, or on what else a reader remembers. -/
theorem scan_ends_at_first_failure (view : View) (root : Path) (visitor : Visitor σ) (state : σ) :
    (∀ visits : List Visit,
      let entries := visited visits
      let told := account view root visitor state visits;
      (∀ ending, Ending view root visitor state entries ending ↔ told = ending) ∧
      (∀ k path failure, told.calls[k]? = some (path, .error failure) →
        told.outcome = .error failure ∧
        told.calls.map Prod.fst = (entries.filter (isChangelog view root)).take (k + 1) ∧
        ∃ before after, entries = before ++ path :: after ∧
          told.opened = (before ++ [path]).filter (isCandidate view root) ∧
          ∀ view' visits', BeginsAlike view view' root (before ++ [path]) (visited visits') →
            account view' root visitor state visits' = told) ∧
      (∀ before path after mid fault, entries = before ++ path :: after →
        Passed view root visitor state before mid →
        isCandidate view root path = true → view.read path = .error fault →
          told.outcome = .error (.unreadable path fault) ∧
          told.calls.map Prod.fst = before.filter (isChangelog view root)) ∧
      ((∀ path ∈ entries, isCandidate view root path = true →
          ∃ content, view.read path = .ok content) →
        (∀ call ∈ told.calls, call.2 = .ok ()) →
          ∃ found, collected view root visits = .ok found ∧
            told.calls.map Prod.fst = found ∧ told.outcome = .ok found.length) ∧
      (Scan.along view root visitor visits state 0).outcome = told.outcome ∧
      (Scan.along view root visitor visits state 0).state = told.state ∧
      ∀ (τ : Type) (reader : Reader τ) (memory : τ),
        (∀ path memory, (reader path memory).1 = view.read path) →
          ∃ after, readAlong view reader root visitor entries state 0 memory =
            (told.outcome, told.state, after)) ∧
    (scan view root visitor state).outcome =
      (account view root visitor state (Discovery.visits view root)).outcome ∧
    (scan view root visitor state).state =
      (account view root visitor state (Discovery.visits view root)).state ∧
    (changelogs view root).1 = collected view root (Discovery.visits view root) := by
  have same (visits : List Visit) : let scan := Scan.along view root visitor visits state 0
      let told := account view root visitor state visits;
      scan.outcome = told.outcome ∧ scan.state = told.state := by
    obtain ⟨calls, accounted⟩ := along_accounted view root visitor visits state [] 0
    simp [account, accounted]
  refine ⟨fun visits => ?_, (same (Discovery.visits view root)).1,
    (same (Discovery.visits view root)).2, rfl⟩
  intro entries told
  have ending : Ending view root visitor state entries told := ending_iff.mpr rfl
  refine ⟨fun _ => ending_iff, fun k path failure refused => ?_, ?_, ending.of_success,
    (same visits).1, (same visits).2, ?_⟩
  · obtain ⟨outcome, calls, before, after, cut, opened, alike⟩ := ending.of_refusal refused
    exact ⟨outcome, calls, before, after, cut, opened, fun view' visits' begins =>
      ending_iff.mp (alike view' _ begins)⟩
  · intro before path after mid fault cut passed candidate lost
    have unreadable : Ending view root visitor state (before ++ path :: after) _ :=
      .unreadable passed candidate lost
    rw [← cut] at unreadable
    have ended : told = _ := ending_iff.mp unreadable
    rw [ended]
    exact ⟨rfl, by simp [taken, Function.comp_def]⟩
  · intro τ reader memory truthful
    obtain ⟨after, walked⟩ := readAlong_eq root visitor truthful visits state 0 memory
    obtain ⟨outcome, final⟩ := same visits
    exact ⟨after, by rw [walked, outcome, final]⟩

/-- A tree with two changelogs and, behind them, a candidate that cannot be read. -/
def brokenTree : Node :=
  .directory programMode
    (.cons ⟨Bytes.ofString "first.xml", by decide⟩ (.file 0)
    (.cons ⟨Bytes.ofString "second.xml", by decide⟩ (.file 0)
    (.cons ⟨Bytes.ofString "third.xml", by decide⟩ (.file 1) .nil)))

/-- A view of a disk that has the tree in one directory. -/
def brokenView : View where
  disk := {
    top := .cons ⟨Bytes.ofString "tree", by decide⟩ brokenTree .nil
    files := #[⟨.bytes (Bytes.ofString "<databaseChangeLog/>"), plainMode, 0⟩,
      ⟨.unreadable .inputOutput, plainMode, 0⟩]
    clock := 0
    tidy := rfl }
  cwd := []

/-- Takes one changelog and refuses the next. -/
def takesOne : Visitor Nat := fun path count =>
  (if count = 0 then .ok () else .error (.conversion path), count + 1)

theorem broken_visits : Discovery.visits brokenView (Path.ofString "/tree") =
    [.entry (Path.ofString "/tree"), .entry (Path.ofString "/tree/first.xml"),
      .entry (Path.ofString "/tree/second.xml"), .entry (Path.ofString "/tree/third.xml")] := by
  have there : brokenView.stat (Path.ofString "/tree") = .ok brokenTree := rfl
  rw [visits_in_order there (by decide) (.refl _) (by decide)]
  decide

/-- In the broken tree nothing can be collected, but a visitor that refuses the second
changelog ends the walk with its own failure, before the candidate behind it is opened. -/
theorem refusal_hides_unreadable :
    let told := account brokenView (Path.ofString "/tree") takesOne 0
      (Discovery.visits brokenView (Path.ofString "/tree"))
    (changelogs brokenView (Path.ofString "/tree")).1 =
      .error (.unreadable (Path.ofString "/tree/third.xml") .inputOutput) ∧
    (scan brokenView (Path.ofString "/tree") takesOne 0).outcome =
      .error (.conversion (Path.ofString "/tree/second.xml")) ∧
    told.calls.map Prod.fst = [Path.ofString "/tree/first.xml", Path.ofString "/tree/second.xml"] ∧
    told.opened = [Path.ofString "/tree/first.xml", Path.ofString "/tree/second.xml"] := by
  intro told
  obtain ⟨every, outcome, -, collects⟩ :=
    scan_ends_at_first_failure brokenView (Path.ofString "/tree") takesOne 0
  obtain ⟨-, refusal, -⟩ := every (Discovery.visits brokenView (Path.ofString "/tree"))
  have refused : told.calls[1]? = some (Path.ofString "/tree/second.xml",
      .error (.conversion (Path.ofString "/tree/second.xml"))) := by
    simp only [told, account, broken_visits]
    decide
  obtain ⟨ended, called, -⟩ := refusal 1 _ _ refused
  refine ⟨?_, outcome.trans ended, called.trans ?_, ?_⟩
  · rw [collects, broken_visits]
    decide
  · rw [broken_visits]
    decide
  · simp only [told, account, broken_visits]
    decide

end ChangelogSql.VisitorCalls
