import ChangelogSql.Proofs.PathComponents

/-! What the place that a lookup starts from has to do with where it ends. A path
from the top leads to one place from everywhere. A path by names alone leads to
another place from every other one, as long as no link stands in its way. -/
namespace ChangelogSql.StartingPoints
open Files PathComponents

/-- The names among the segments of a path, in their order. -/
def namesOf (path : Path) : Location :=
  (Text.splitAt separator path.bytes).filterMap Name.ofBytes?

/-- A path has no segment that goes up. -/
def isLevel (path : Path) : Bool :=
  !(Text.splitAt separator path.bytes).contains [0x2E, 0x2E]

/-- No link stands on the way from a place down through names. -/
def isUnlinked (disk : Disk) : Location → Location → Bool
  | _, [] => true
  | location, name :: names =>
    match disk.node? (location ++ [name]) with
    | some (.link _) => false
    | _ => isUnlinked disk (location ++ [name]) names

variable {disk : Disk} {follow : Bool} {location cwd : Location} {segments : List Bytes}
variable {chase : Location → List Bytes → Except Fault Place} {place : Place} {path name : Path}

/-- What is joined to a path starts where that path does. -/
theorem join_isAbsolute (relative : name.isAbsolute = false) :
    (path.join name).isAbsolute = path.isAbsolute := by
  obtain ⟨bytes⟩ := path
  cases bytes with
  | nil => simpa [Path.join, relative, Path.isAbsolute] using relative
  | cons first rest =>
    unfold Path.join
    rw [relative, if_neg Bool.false_ne_true]
    split <;> simp [Path.isAbsolute]

/-- A path from the top leads to one place, wherever one is. -/
theorem lookup_absolute (fromTop : path.isAbsolute = true) (cwd other : Location) :
    disk.lookup follow cwd path = disk.lookup follow other path := by
  simp only [Disk.lookup, Disk.search, start, fromTop, ↓reduceIte]

/-- Silent segments name nothing. -/
theorem ofBytes_of_silent {segment : Bytes} (quiet : Path.silent segment = true) :
    Name.ofBytes? segment = none := by
  simp only [Path.silent, Bool.or_eq_true, decide_eq_true_eq] at quiet
  rcases quiet with rfl | rfl <;> rfl

/-- A walk through names alone goes down through them. -/
theorem walkWith_names (level : [0x2E, 0x2E] ∉ segments)
    (free : isUnlinked disk location (segments.filterMap Name.ofBytes?) = true)
    (ends : walkWith disk follow chase location segments = .ok place) :
    place.location = location ++ segments.filterMap Name.ofBytes? := by
  induction segments generalizing location with
  | nil =>
    simp only [walkWith] at ends
    split at ends
    · cases ends
    · cases ends
      simp
  | cons segment rest ih =>
    obtain ⟨other, below⟩ := not_or.mp (mt List.mem_cons.mpr level)
    simp only [walkWith] at ends
    split at ends
    · cases ends
    · split at ends
      next quiet =>
        rw [List.filterMap_cons_none (ofBytes_of_silent quiet)] at free ⊢
        exact ih below free ends
      rw [if_neg (Ne.symm other)] at ends
      split at ends
      · cases ends
      split at ends
      · cases ends
      next name spelled =>
      rw [List.filterMap_cons_some spelled] at free ⊢
      simp only [isUnlinked] at free
      split at ends
      next missing =>
        split at ends
        next last =>
          cases ends
          simp [last]
        · cases ends
      next target there =>
        rw [there] at free
        cases free
      next =>
        split at free
        · cases free
        rw [ih below free ends, List.append_assoc, List.singleton_append]
    · cases ends

theorem walk_names {links : Nat} (level : [0x2E, 0x2E] ∉ segments)
    (free : isUnlinked disk location (segments.filterMap Name.ofBytes?) = true)
    (ends : walk disk follow links location segments = .ok place) :
    place.location = location ++ segments.filterMap Name.ofBytes? := by
  cases links <;> exact walkWith_names level free ends

/-- A path by names alone leads from a place to what is called so below it. -/
theorem lookup_names (relative : path.isAbsolute = false) (level : isLevel path = true)
    (free : isUnlinked disk cwd (namesOf path) = true)
    (ends : disk.lookup follow cwd path = .ok place) : place.location = cwd ++ namesOf path := by
  unfold Disk.lookup at ends
  split at ends
  · cases ends
  split at ends
  · cases ends
  unfold Disk.search at ends
  split at ends
  · cases ends
  split at ends
  · cases ends
  simp only [start, relative, Bool.false_eq_true, ↓reduceIte] at ends
  exact walk_names (by simpa [isLevel] using level) free ends

theorem lookup_of_isFile {view : View} (there : view.isFile path = true) :
    ∃ place, view.disk.lookup true view.cwd path = .ok place := by
  cases found : view.disk.lookup true view.cwd path with
  | ok place => exact ⟨place, rfl⟩
  | error fault =>
    have lost : view.stat path = .error fault := by
      rw [View.stat, found]
      rfl
    simp [View.isFile, lost] at there

/-- A file that is found by names alone is found by them from no other place. -/
theorem lookup_eq_iff {other : Location} (relative : path.isAbsolute = false)
    (level : isLevel path = true) (there : (⟨disk, cwd⟩ : View).isFile path = true)
    (free : isUnlinked disk cwd (namesOf path) = true)
    (free' : isUnlinked disk other (namesOf path) = true) :
    disk.lookup true other path = disk.lookup true cwd path ↔ other = cwd := by
  refine ⟨fun same => ?_, fun same => same ▸ rfl⟩
  obtain ⟨place, found⟩ := lookup_of_isFile there
  have here := lookup_names relative level free found
  have beyond := lookup_names relative level free' (same.trans found)
  exact List.append_cancel_right (beyond.symm.trans here)

end ChangelogSql.StartingPoints
