import ChangelogSql.Proofs.RunCourse

/-! The life of a jar store on a disk that is not its own. It is visited again and
again, each time with whatever fetcher there is by then, and between the visits
the disk may become any other. What a visit does is decided by the disk of that
moment; the counter is all that a store keeps. A jar that was fetched is fetched
again only after something else than the store has taken it away. -/
namespace ChangelogSql.StoreVisits
open Files Conversion CallAccounts RunCourse

variable {σ : Type}

/-- One visit to a store: the version that is asked for, with the collaborators
and the memory that the visit happens to meet. -/
structure Visit (σ : Type) where
  tools : Toolchain σ
  version : String
  memory : σ

/-- What happens to a store and its disk: a visit, or a change from outside. -/
inductive Step (σ : Type) where
  | visit (visit : Visit σ)
  | change (disk : Disk)

/-- A store with the disk it meets. -/
structure Stock where
  store : JarStore
  disk : Disk

/-- A regular file stands at a path, links followed. -/
def Stock.holds (stock : Stock) (cwd : Location) (path : Path) : Bool :=
  View.isFile ⟨stock.disk, cwd⟩ path

namespace Visit

/-- The jar a visit is about. -/
def jar (visit : Visit σ) (stock : Stock) : Jar :=
  stock.store.jar visit.version

/-- How a visit goes. -/
def result (visit : Visit σ) (cwd : Location) (stock : Stock) :
    Except Failure (Jar × JarStore) × World σ :=
  (stock.store.ensure visit.tools visit.version).perform ⟨stock.disk, cwd, visit.memory, []⟩

/-- What a visit comes to. -/
def outcome (visit : Visit σ) (cwd : Location) (stock : Stock) : Except Failure Jar :=
  (visit.result cwd stock).1.map Prod.fst

/-- What is asked in a visit. -/
def asked (visit : Visit σ) (cwd : Location) (stock : Stock) : List Request :=
  Transcript.requests (visit.result cwd stock).2.events

/-- What the fetcher does about the jar of a visit, once it is asked. -/
def reply (visit : Visit σ) (cwd : Location) (stock : Stock) : Reply σ Download :=
  visit.tools.download (visit.jar stock).url (visit.jar stock).path ⟨stock.disk, cwd⟩ visit.memory

/-- A visit asks for a download, and the answer is that the jar was fetched. -/
def fetches (visit : Visit σ) (cwd : Location) (stock : Stock) : Bool :=
  match (visit.reply cwd stock).answer with
  | .ok .fetched => !(visit.asked cwd stock).isEmpty
  | _ => false

end Visit

/-- The store that the next visit meets. A visit that failed leaves it as it was. -/
def storeAfter (store : JarStore) : Except Failure (Jar × JarStore) → JarStore
  | .ok (_, store) => store
  | .error _ => store

/-- The stock after one step. -/
def next (cwd : Location) (stock : Stock) : Step σ → Stock
  | .visit visit =>
    ⟨storeAfter stock.store (visit.result cwd stock).1, (visit.result cwd stock).2.disk⟩
  | .change disk => { stock with disk }

/-- The stock after some steps. -/
def stockAfter (cwd : Location) (stock : Stock) (steps : List (Step σ)) : Stock :=
  steps.foldl (next cwd) stock

/-- How many visits among some steps fetch a jar. -/
def fetchCount (cwd : Location) : Stock → List (Step σ) → Nat
  | _, [] => 0
  | stock, .visit visit :: rest =>
    (visit.fetches cwd stock).toNat + fetchCount cwd (next cwd stock (.visit visit)) rest
  | stock, .change disk :: rest => fetchCount cwd (next cwd stock (.change disk : Step σ)) rest

/-- A store that has not fetched anything yet. -/
def opened (directory : Path) (base : String) (disk : Disk) : Stock :=
  ⟨⟨directory, base, 0⟩, disk⟩

/-- What a fetcher's answer makes of a visit. -/
def supplied (jar : Jar) : Download → Except Failure Jar
  | .fetched => .ok jar
  | .failed _ => .error (.download jar.url)

/-- Among the steps from a stock on, the visit meets this stock. -/
def Meets (cwd : Location) (start : Stock) (steps : List (Step σ)) (visit : Visit σ)
    (stock : Stock) : Prop :=
  ∃ earlier later, steps = earlier ++ .visit visit :: later ∧ stock = stockAfter cwd start earlier

/-- The visits for other versions leave the jar of this one where it is. -/
def Spared (cwd : Location) (start : Stock) (steps : List (Step σ)) (visit : Visit σ) : Prop :=
  ∀ other stock, Meets cwd start steps other stock → other.version ≠ visit.version →
    stock.holds cwd (visit.jar stock).path = true →
    (next cwd stock (.visit other)).holds cwd (visit.jar stock).path = true

variable {cwd : Location} {start stock : Stock} {visit : Visit σ} {steps : List (Step σ)}

/-- A visit goes by the rules of supplying a jar, and only a visit that comes to a
jar may change the store. -/
theorem visit_supplies (cwd : Location) (stock : Stock) (visit : Visit σ) :
    ∃ calls outcome after,
      Supplying visit.tools cwd (visit.jar stock) ⟨stock.disk, visit.memory⟩ calls outcome after ∧
      visit.outcome cwd stock = outcome.map (fun _ => visit.jar stock) ∧
      visit.asked cwd stock = calls.map Call.request ∧
      next cwd stock (.visit visit) = ⟨storeAfter stock.store (outcome.map fun _ =>
        (visit.jar stock,
          { stock.store with downloads := stock.store.downloads + calls.countP isDownload })),
        after.disk⟩ := by
  obtain ⟨calls, outcome, after, supplying⟩ :=
    supplying_total visit.tools cwd (visit.jar stock) ⟨stock.disk, visit.memory⟩
  obtain ⟨final, performed, account, rfl⟩ :=
    ensure_performs supplying ⟨stock.disk, cwd, visit.memory, []⟩ rfl rfl
  have went : visit.result cwd stock = (_, final) := performed
  refine ⟨calls, outcome, momentOf final, supplying, ?_, ?_, ?_⟩
  · rw [Visit.outcome, went]
    cases outcome <;> rfl
  · rw [Visit.asked, went, account.asked]
    rfl
  · rw [next, went]
    rfl

/-- A jar that is there is given out, and nothing happens. -/
theorem visit_present (there : stock.holds cwd (visit.jar stock).path = true) :
    visit.asked cwd stock = [] ∧ visit.outcome cwd stock = .ok (visit.jar stock) ∧
      visit.fetches cwd stock = false ∧ next cwd stock (.visit visit) = stock := by
  obtain ⟨calls, outcome, after, supplying, came, asked, stays⟩ := visit_supplies cwd stock visit
  cases supplying with
  | present =>
    have silent : visit.asked cwd stock = [] := asked
    refine ⟨silent, came, ?_, stays⟩
    simp only [Visit.fetches, silent]
    split <;> rfl
  | fetched missing | unfetched missing | refused missing =>
    have absent : stock.holds cwd (visit.jar stock).path = false := missing
    rw [there] at absent
    cases absent

/-- An answer that a visit gets is the fetcher's, and so is the disk afterwards. -/
private theorem answered_reply {answer : Except Failure Download} {after : Moment σ}
    (answered : Answered visit.tools cwd ⟨stock.disk, visit.memory⟩
      (.download (visit.jar stock).url (visit.jar stock).path answer) after) :
    (visit.reply cwd stock).answer = answer ∧ (visit.reply cwd stock).disk = after.disk :=
  ⟨answered.1, answered.2.1⟩

/-- A jar that is not there is asked for once, and the answer decides the visit.
The disk is left as the fetcher left it. -/
theorem visit_missing (missing : stock.holds cwd (visit.jar stock).path = false) :
    visit.asked cwd stock = [.download (visit.jar stock).url (visit.jar stock).path] ∧
      visit.outcome cwd stock =
        (visit.reply cwd stock).answer.bind (supplied (visit.jar stock)) ∧
      next cwd stock (.visit visit) =
        ⟨{ stock.store with
            downloads := stock.store.downloads + (visit.fetches cwd stock).toNat },
          (visit.reply cwd stock).disk⟩ := by
  obtain ⟨calls, outcome, after, supplying, came, asked, becomes⟩ := visit_supplies cwd stock visit
  rw [came, becomes, Visit.fetches, asked]
  cases supplying with
  | present there =>
    have held : stock.holds cwd (visit.jar stock).path = true := there
    rw [missing] at held
    cases held
  | fetched _ answered =>
    obtain ⟨said, left⟩ := answered_reply answered
    rw [said, left]
    exact ⟨rfl, rfl, rfl⟩
  | unfetched _ answered =>
    obtain ⟨said, left⟩ := answered_reply answered
    rw [said, left]
    exact ⟨rfl, rfl, rfl⟩
  | refused _ answered =>
    obtain ⟨said, left⟩ := answered_reply answered
    rw [said, left]
    exact ⟨rfl, rfl, rfl⟩

/-- A visit that fetches did not find its jar. -/
theorem missing_of_fetches (fetches : visit.fetches cwd stock = true) :
    stock.holds cwd (visit.jar stock).path = false := by
  cases there : stock.holds cwd (visit.jar stock).path with
  | false => rfl
  | true =>
    rw [(visit_present there).2.2.1] at fetches
    cases fetches

/-- One step counts one fetch at most, and changes nothing else about the store. -/
theorem next_store (cwd : Location) (stock : Stock) (step : Step σ) :
    (next cwd stock step).store =
      { stock.store with downloads := stock.store.downloads + fetchCount cwd stock [step] } := by
  cases step with
  | change disk => rfl
  | visit visit =>
    have count : fetchCount cwd stock [.visit visit] = (visit.fetches cwd stock).toNat := rfl
    cases there : stock.holds cwd (visit.jar stock).path with
    | true =>
      obtain ⟨-, -, counted, stays⟩ := visit_present there
      rw [stays, count, counted]
      rfl
    | false =>
      obtain ⟨-, -, becomes⟩ := visit_missing there
      rw [becomes, count]

theorem fetchCount_cons (cwd : Location) (stock : Stock) (step : Step σ) (steps : List (Step σ)) :
    fetchCount cwd stock (step :: steps) =
      fetchCount cwd stock [step] + fetchCount cwd (next cwd stock step) steps := by
  cases step <;> simp [fetchCount]

/-- Any steps count their fetches, and change nothing else about the store. -/
theorem stockAfter_store (cwd : Location) (stock : Stock) (steps : List (Step σ)) :
    (stockAfter cwd stock steps).store =
      { stock.store with downloads := stock.store.downloads + fetchCount cwd stock steps } := by
  induction steps generalizing stock with
  | nil => rfl
  | cons step rest ih =>
    rw [fetchCount_cons]
    change (stockAfter cwd (next cwd stock step) rest).store = _
    rw [ih, next_store, Nat.add_assoc]

/-- The jar of a visit does not depend on when the visit is made. -/
theorem jar_after (cwd : Location) (start : Stock) (steps : List (Step σ)) (visit : Visit σ) :
    visit.jar (stockAfter cwd start steps) = visit.jar start := by
  rw [Visit.jar, stockAfter_store]
  rfl

theorem stockAfter_concat (cwd : Location) (stock : Stock) (steps : List (Step σ)) (step : Step σ) :
    stockAfter cwd stock (steps ++ [step]) = next cwd (stockAfter cwd stock steps) step := by
  simp [stockAfter]

/-- What was there and is not there any more was taken away by one of the steps. -/
theorem lost_by_step (path : Path) (before : stock.holds cwd path = true)
    (after : (stockAfter cwd stock steps).holds cwd path = false) :
    ∃ front step back, steps = front ++ step :: back ∧
      (stockAfter cwd stock front).holds cwd path = true ∧
      (stockAfter cwd stock (front ++ [step])).holds cwd path = false := by
  induction steps using List.reverseRecOn with
  | nil =>
    have same : stock.holds cwd path = false := after
    rw [before] at same
    cases same
  | append_singleton front step ih =>
    cases middle : (stockAfter cwd stock front).holds cwd path with
    | true => exact ⟨front, step, [], rfl, middle, after⟩
    | false =>
      obtain ⟨front', step', back, split, held, lost⟩ := ih middle
      exact ⟨front', step', back ++ [step], by simp [split], held, lost⟩

/-- Only a change from outside or a fetcher at work on another jar takes a jar away. -/
theorem taken_from_outside {step : Step σ} (before : stock.holds cwd (visit.jar stock).path = true)
    (after : (next cwd stock step).holds cwd (visit.jar stock).path = false) :
    (∃ disk, step = .change disk) ∨
      ∃ other, step = .visit other ∧ other.version ≠ visit.version ∧ other.asked cwd stock ≠ [] := by
  cases step with
  | change disk => exact .inl ⟨disk, rfl⟩
  | visit other =>
    refine .inr ⟨other, rfl, ?_⟩
    have absent : stock.holds cwd (other.jar stock).path = false := by
      cases there : stock.holds cwd (other.jar stock).path with
      | false => rfl
      | true =>
        rw [(visit_present there).2.2.2, before] at after
        cases after
    refine ⟨fun same => ?_, ?_⟩
    · rw [Visit.jar, same] at absent
      rw [Visit.jar, absent] at before
      cases before
    · rw [(visit_missing absent).1]
      simp

/-- A visit whose fetch leaves the jar behind gives out no jar that is not there. -/
theorem given_is_there {given : Jar}
    (leaves : visit.fetches cwd stock = true →
      (next cwd stock (.visit visit)).holds cwd (visit.jar stock).path = true)
    (came : visit.outcome cwd stock = .ok given) :
    given = visit.jar stock ∧ (next cwd stock (.visit visit)).holds cwd given.path = true := by
  cases there : stock.holds cwd (visit.jar stock).path with
  | true =>
    obtain ⟨-, given', -, stays⟩ := visit_present there
    rw [given'] at came
    cases came
    rw [stays]
    exact ⟨rfl, there⟩
  | false =>
    obtain ⟨asked, given', -⟩ := visit_missing there
    rw [given'] at came
    cases answer : (visit.reply cwd stock).answer with
    | error failure =>
      rw [answer] at came
      cases came
    | ok download =>
      rw [answer] at came
      cases download with
      | failed output => cases came
      | fetched =>
        cases came
        have fetched : visit.fetches cwd stock = true := by simp [Visit.fetches, answer, asked]
        exact ⟨rfl, leaves fetched⟩

/-- Between a visit that leaves its jar behind and a fetch for the same version,
the jar was taken away from outside. -/
theorem fetches_separated {first second : Visit σ} {between : List (Step σ)}
    (version : second.version = first.version)
    (held : (next cwd stock (.visit first)).holds cwd (first.jar stock).path = true)
    (again : second.fetches cwd (stockAfter cwd stock (.visit first :: between)) = true) :
    ∃ front step back, between = front ++ step :: back ∧
      let met := stockAfter cwd stock (.visit first :: front)
      met.holds cwd (first.jar stock).path = true ∧
      (next cwd met step).holds cwd (first.jar stock).path = false ∧
      ((∃ disk, step = .change disk) ∨ ∃ other, step = .visit other ∧
        other.version ≠ first.version ∧ other.asked cwd met ≠ []) := by
  have gone := missing_of_fetches again
  have path : second.jar stock = first.jar stock := by rw [Visit.jar, version, Visit.jar]
  rw [jar_after, path] at gone
  obtain ⟨front, step, back, split, before, after⟩ := lost_by_step _ held gone
  rw [stockAfter_concat] at after
  refine ⟨front, step, back, split, before, after, ?_⟩
  rw [← jar_after cwd stock (.visit first :: front) first] at before after
  exact taken_from_outside before after

/-- A store through any visits and any changes of its disk. A visit asks for a
download exactly if its jar is not a regular file at that moment, once and for
that jar, and comes to that jar or to what the answer makes of it; the counter
is the number of fetches. If a fetch leaves the jar behind, every jar that is
given out is there, and between two fetches for one version the jar was taken
away by something else than the store: a change from outside, or a fetcher that
was asked for another version. Where fetchers spare the other jars it was a change
from outside. -/
theorem store_goes_by_disk (cwd : Location) (directory : Path) (base : String) (disk : Disk)
    (steps : List (Step σ)) :
    let start := opened directory base disk
    let jar (visit : Visit σ) := Jar.forVersion visit.version directory base
    (stockAfter cwd start steps).store = ⟨directory, base, fetchCount cwd start steps⟩ ∧
    (∀ visit stock, Meets cwd start steps visit stock →
      (stock.holds cwd (jar visit).path = true →
        visit.asked cwd stock = [] ∧ visit.outcome cwd stock = .ok (jar visit)) ∧
      (stock.holds cwd (jar visit).path = false →
        visit.asked cwd stock = [.download (jar visit).url (jar visit).path] ∧
        visit.outcome cwd stock = (visit.reply cwd stock).answer.bind (supplied (jar visit)))) ∧
    ((∀ visit stock, Meets cwd start steps visit stock → visit.fetches cwd stock = true →
        (next cwd stock (.visit visit)).holds cwd (jar visit).path = true) →
      (∀ visit stock given, Meets cwd start steps visit stock → visit.outcome cwd stock = .ok given →
        given = jar visit ∧ (next cwd stock (.visit visit)).holds cwd given.path = true) ∧
      ∀ earlier first between second later,
        steps = earlier ++ .visit first :: between ++ .visit second :: later →
        second.version = first.version →
        first.fetches cwd (stockAfter cwd start earlier) = true →
        second.fetches cwd (stockAfter cwd start (earlier ++ .visit first :: between)) = true →
        ∃ front step back, between = front ++ step :: back ∧
          let met := stockAfter cwd start (earlier ++ .visit first :: front)
          met.holds cwd (jar first).path = true ∧
          (next cwd met step).holds cwd (jar first).path = false ∧
          ((∃ disk, step = .change disk) ∨ ∃ other, step = .visit other ∧
            other.version ≠ first.version ∧ other.asked cwd met ≠ []) ∧
          (Spared cwd start steps first → ∃ disk, step = .change disk)) := by
  intro start jar
  have same (steps : List (Step σ)) (visit : Visit σ) :
      visit.jar (stockAfter cwd start steps) = jar visit := jar_after cwd start steps visit
  refine ⟨?_, ?_, fun leaves => ⟨?_, ?_⟩⟩
  · rw [stockAfter_store]
    simp [start, opened]
  · rintro visit _ ⟨earlier, later, -, rfl⟩
    rw [← same earlier visit]
    exact ⟨fun there => ⟨(visit_present there).1, (visit_present there).2.1⟩,
      fun missing => ⟨(visit_missing missing).1, (visit_missing missing).2.1⟩⟩
  · rintro visit _ given ⟨earlier, later, split, rfl⟩ came
    have left := leaves visit _ ⟨earlier, later, split, rfl⟩
    rw [← same earlier visit] at left ⊢
    exact given_is_there left came
  · rintro earlier first between second later split version fetched again
    have met : Meets cwd start steps first (stockAfter cwd start earlier) :=
      ⟨earlier, between ++ .visit second :: later, by simp [split], rfl⟩
    have held := leaves first _ met fetched
    rw [← same earlier first] at held ⊢
    have onward (steps : List (Step σ)) : stockAfter cwd start (earlier ++ steps) =
        stockAfter cwd (stockAfter cwd start earlier) steps := by
      simp [stockAfter]
    rw [onward] at again
    obtain ⟨front, step, back, inside, before, after, cause⟩ := fetches_separated version held again
    rw [← onward] at before after cause
    refine ⟨front, step, back, inside, before, after, cause, fun spared => ?_⟩
    rcases cause with change | ⟨other, rfl, differs, -⟩
    · exact change
    · have meets : Meets cwd start steps other (stockAfter cwd start (earlier ++ .visit first :: front)) :=
        ⟨_, back ++ .visit second :: later, by simp [split, inside], rfl⟩
      have path : first.jar (stockAfter cwd start earlier) =
          first.jar (stockAfter cwd start (earlier ++ .visit first :: front)) := by rw [same, same]
      rw [path] at before after
      rw [spared other _ meets differs before] at after
      cases after

theorem meets_nil {met : Visit σ} : ¬ Meets cwd start [] met stock := by
  rintro ⟨earlier, later, split, -⟩
  simp at split

/-- The first step is the visit in question, or the visit is one of the further steps. -/
theorem meets_cons {step : Step σ} {met : Visit σ} : Meets cwd start (step :: steps) met stock ↔
    step = .visit met ∧ stock = start ∨ Meets cwd (next cwd start step) steps met stock := by
  constructor
  · rintro ⟨earlier, later, split, rfl⟩
    cases earlier with
    | nil => exact .inl ⟨(List.cons.inj split).1, rfl⟩
    | cons first earlier =>
      obtain ⟨rfl, others⟩ := List.cons.inj split
      exact .inr ⟨earlier, later, others, rfl⟩
  · rintro (⟨rfl, rfl⟩ | ⟨earlier, later, rfl, rfl⟩)
    · exact ⟨[], steps, rfl, rfl⟩
    · exact ⟨step :: earlier, later, rfl, rfl⟩

/-- A disk with nothing on it. -/
def bareDisk : Disk :=
  .empty 0

def bareStock : Stock :=
  opened (Path.ofString "/") "u" bareDisk

/-- Collaborators that fetch a jar by making a file where they are asked to. -/
def suppliers : Toolchain Unit where
  workingTree _ view _ := ⟨.ok true, view.disk, (), []⟩
  dependencies _ view _ := ⟨.ok "", view.disk, (), []⟩
  download _ destination view _ :=
    match view.write destination [] with
    | .ok disk => ⟨.ok .fetched, disk, (), []⟩
    | .error _ => ⟨.ok (.failed ""), view.disk, (), []⟩
  convert _ _ view _ := ⟨.ok true, view.disk, (), []⟩

def visitFor (version : String) : Visit Unit :=
  ⟨suppliers, version, ()⟩

/-- The two jars are fetched and taken away, and the first is asked for again. -/
def sweptSteps : List (Step Unit) :=
  [.visit (visitFor "4.2"), .visit (visitFor "4.1"), .change bareDisk, .visit (visitFor "4.2")]

theorem swept_leaves : ∀ visit stock, Meets [] bareStock sweptSteps visit stock →
    visit.fetches [] stock = true → (next [] stock (.visit visit)).holds []
      (Jar.forVersion visit.version (Path.ofString "/") "u").path = true := by
  intro visit stock meets fetches
  simp only [sweptSteps, meets_cons, meets_nil, Step.visit.injEq, reduceCtorEq, false_and, false_or,
    or_false] at meets
  rcases meets with ⟨rfl, rfl⟩ | ⟨rfl, rfl⟩ | ⟨rfl, rfl⟩ <;> decide +kernel

theorem swept_spared : Spared [] bareStock sweptSteps (visitFor "4.2") := by
  intro other stock meets differs there
  simp only [sweptSteps, meets_cons, meets_nil, Step.visit.injEq, reduceCtorEq, false_and, false_or,
    or_false] at meets
  rcases meets with ⟨rfl, rfl⟩ | ⟨rfl, rfl⟩ | ⟨rfl, rfl⟩
  · exact absurd rfl differs
  · decide +kernel
  · exact absurd rfl differs

/-- Fetchers that leave each jar and spare the others fetch one for a second time because somebody
has taken it away in between. -/
theorem swept_jar_fetched_again :
    (∀ visit stock, Meets [] bareStock sweptSteps visit stock → visit.fetches [] stock = true →
      (next [] stock (.visit visit)).holds []
        (Jar.forVersion visit.version (Path.ofString "/") "u").path = true) ∧
      Spared [] bareStock sweptSteps (visitFor "4.2") ∧
      (stockAfter [] bareStock sweptSteps).store.downloads = 3 ∧
      (visitFor "4.2").outcome [] (stockAfter [] bareStock (sweptSteps.take 3)) =
        .ok (Jar.forVersion "4.2" (Path.ofString "/") "u") ∧
      ∃ front disk back,
        [.visit (visitFor "4.1"), .change bareDisk] = front ++ Step.change disk :: back ∧
        (stockAfter [] bareStock (.visit (visitFor "4.2") :: front)).holds []
          (Jar.forVersion "4.2" (Path.ofString "/") "u").path = true ∧
        View.isFile ⟨disk, []⟩ (Jar.forVersion "4.2" (Path.ofString "/") "u").path = false := by
  obtain ⟨counted, visits, kept⟩ :=
    store_goes_by_disk [] (Path.ofString "/") "u" bareDisk sweptSteps
  obtain ⟨-, separated⟩ := kept swept_leaves
  have last : Meets [] bareStock sweptSteps (visitFor "4.2")
      (stockAfter [] bareStock (sweptSteps.take 3)) := ⟨_, [], rfl, rfl⟩
  have gone : (stockAfter [] bareStock (sweptSteps.take 3)).holds []
      (Jar.forVersion "4.2" (Path.ofString "/") "u").path = false := by decide +kernel
  obtain ⟨front, step, back, inside, before, after, -, outside⟩ :=
    separated [] (visitFor "4.2") [.visit (visitFor "4.1"), .change bareDisk] (visitFor "4.2") []
      rfl rfl (by decide +kernel) (by decide +kernel)
  obtain ⟨disk, rfl⟩ := outside swept_spared
  refine ⟨swept_leaves, swept_spared, ?_, ?_, front, disk, back, inside, before, after⟩
  · exact (congrArg JarStore.downloads counted).trans (by decide +kernel)
  · exact ((visits _ _ last).2 gone).2.trans (by decide +kernel)

end ChangelogSql.StoreVisits
