import ChangelogSql.Proofs.StoreVisits

/-! What a visit that failed leaves behind. The store takes nothing away: the disk
is as the fetcher left it, and the presence of the file is all that the next
visit goes by. So a failed fetch is repeated exactly if the fetcher left no file
at its destination; half a jar is given out as a whole one. -/
namespace ChangelogSql.StoreLeftovers
open Files StoreVisits

variable {σ : Type} {cwd : Location} {stock later : Stock} {visit again : Visit σ}
variable {failure : Failure}

/-- A visit for the same version to a store in the same directory. The store may
be that of another run. -/
structure Again (stock : Stock) (visit : Visit σ) (later : Stock) (again : Visit σ) : Prop where
  directory : later.store.directory = stock.store.directory
  version : again.version = visit.version

/-- Whoever asks for the version after a visit, in whatever run, asks for its
download, as long as nobody else has made the jar since. -/
def Repeated (cwd : Location) (stock : Stock) (visit : Visit σ) : Prop :=
  ∀ place later (again : Visit σ), Again stock visit later again →
    (later.holds place (visit.jar stock).path = true →
      (next cwd stock (.visit visit)).holds cwd (visit.jar stock).path = true) →
    again.asked place later = [.download (again.jar later).url (visit.jar stock).path]

theorem again_path (same : Again stock visit later again) :
    (again.jar later).path = (visit.jar stock).path := by
  obtain ⟨directory, version⟩ := same
  simp only [Visit.jar, Conversion.JarStore.jar, Jar.forVersion, directory, version]

/-- The very next visit, to the store as it is left. -/
theorem again_next (cwd : Location) (stock : Stock) (visit : Visit σ) :
    Again stock visit (next cwd stock (.visit visit)) visit := by
  refine ⟨?_, rfl⟩
  rw [next_store]

/-- A visit that fails did not find the jar, and leaves the store as it was and the
disk as the fetcher left it. -/
theorem failed_visit (failed : visit.outcome cwd stock = .error failure) :
    stock.holds cwd (visit.jar stock).path = false ∧
      next cwd stock (.visit visit) = ⟨stock.store, (visit.reply cwd stock).disk⟩ := by
  cases there : stock.holds cwd (visit.jar stock).path with
  | true =>
    rw [(visit_present there).2.1] at failed
    cases failed
  | false =>
    obtain ⟨-, came, becomes⟩ := visit_missing there
    rw [came] at failed
    have uncounted : visit.fetches cwd stock = false := by
      cases answer : (visit.reply cwd stock).answer with
      | error => simp [Visit.fetches, answer]
      | ok download =>
        cases download with
        | failed => simp [Visit.fetches, answer]
        | fetched =>
          rw [answer] at failed
          cases failed
    refine ⟨rfl, ?_⟩
    rw [becomes, uncounted]
    rfl

/-- A failed fetch is repeated exactly if the fetcher left no regular file at the
destination. A file that it left is a jar from then on: as long as it is there,
nobody asks for the version again and everybody is given the leftover. -/
theorem repeated_iff_nothing_left (failed : visit.outcome cwd stock = .error failure) :
    let path := (visit.jar stock).path
    let left := next cwd stock (.visit visit)
    stock.holds cwd path = false ∧
      left = ⟨stock.store, (visit.reply cwd stock).disk⟩ ∧
      (Repeated cwd stock visit ↔ left.holds cwd path = false) ∧
      (left.holds cwd path = true → ∀ place later (again : Visit σ),
        Again stock visit later again → later.holds place path = true →
          again.asked place later = [] ∧ again.outcome place later = .ok (again.jar later)) := by
  intro path left
  obtain ⟨absent, becomes⟩ := failed_visit failed
  have reused (place : Location) (later : Stock) (again : Visit σ)
      (same : Again stock visit later again) (there : later.holds place path = true) :
      again.asked place later = [] ∧ again.outcome place later = .ok (again.jar later) := by
    have held : later.holds place (again.jar later).path = true := by rwa [again_path same]
    exact ⟨(visit_present held).1, (visit_present held).2.1⟩
  refine ⟨absent, becomes, ⟨fun repeated => ?_, fun nothing => ?_⟩, fun _ => reused⟩
  · cases there : left.holds cwd path with
    | false => rfl
    | true =>
      have asked := repeated cwd left visit (again_next cwd stock visit) fun _ => there
      rw [(reused cwd left visit (again_next cwd stock visit) there).1] at asked
      cases asked
  · intro place later again same unmade
    have missing : later.holds place (again.jar later).path = false := by
      rw [again_path same]
      cases there : later.holds place path with
      | false => rfl
      | true => exact (unmade there).symm.trans nothing
    rw [(visit_missing missing).1, again_path same]

/-- The disk with the first bytes of a jar on it. -/
def brokenDisk : Disk :=
  bareDisk.create [⟨Bytes.ofString "liquify-4.2.jar", by decide⟩] (.bytes (Bytes.ofString "PK")) plainMode

/-- Collaborators whose transfers break off midway. -/
def brokenTools : Toolchain Unit where
  workingTree _ view _ := ⟨.ok true, view.disk, (), []⟩
  dependencies _ view _ := ⟨.ok "", view.disk, (), []⟩
  download _ _ _ _ := ⟨.ok (.failed "curl: (18) transfer closed"), brokenDisk, (), []⟩
  convert _ _ view _ := ⟨.ok true, view.disk, (), []⟩

def brokenVisit : Visit Unit :=
  ⟨brokenTools, "4.2", ()⟩

theorem broken_visit_fails :
    brokenVisit.outcome [] bareStock = .error (.download (brokenVisit.jar bareStock).url) := by
  have missing : bareStock.holds [] (brokenVisit.jar bareStock).path = false := by decide
  rw [(visit_missing missing).2.1]
  rfl

theorem broken_visit_leaves :
    (next [] bareStock (.visit brokenVisit)).holds [] (brokenVisit.jar bareStock).path = true := by
  rw [(failed_visit broken_visit_fails).2]
  decide

/-- A transfer that breaks off fails the visit and leaves a file, and the next visit
gives that file out. -/
theorem broken_transfer_reused :
    brokenVisit.outcome [] bareStock = .error (.download (brokenVisit.jar bareStock).url) ∧
      let left := next [] bareStock (.visit brokenVisit)
      left.holds [] (brokenVisit.jar bareStock).path = true ∧
        ¬ Repeated [] bareStock brokenVisit ∧
        brokenVisit.asked [] left = [] ∧
        brokenVisit.outcome [] left = .ok (brokenVisit.jar left) := by
  obtain ⟨-, -, repeats, reused⟩ := repeated_iff_nothing_left broken_visit_fails
  have there := broken_visit_leaves
  refine ⟨broken_visit_fails, there, fun repeated => ?_,
    reused there [] _ brokenVisit (again_next [] bareStock brokenVisit) there⟩
  rw [repeats.mp repeated] at there
  cases there

/-- Not every failed fetch is repeated. -/
theorem failed_fetch_not_always_repeated :
    ¬ ∀ (cwd : Location) (stock : Stock) (visit : Visit Unit) (failure : Failure),
      visit.outcome cwd stock = .error failure → Repeated cwd stock visit := by
  intro always
  have repeated := always [] bareStock brokenVisit _ broken_visit_fails
  have same := again_next [] bareStock brokenVisit
  have there : (next [] bareStock (.visit brokenVisit)).holds []
      (brokenVisit.jar (next [] bareStock (.visit brokenVisit))).path = true := by
    rw [again_path same]
    exact broken_visit_leaves
  have asked := repeated [] _ brokenVisit same fun _ => broken_visit_leaves
  rw [(visit_present there).1] at asked
  cases asked

end ChangelogSql.StoreLeftovers
