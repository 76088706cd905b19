import ChangelogSql.Files.Access
import Mathlib.Data.List.Nodup

/-! A tree in which a name stands for one thing. Among the entries of a directory, those
that are found by their names are those there are, and what a lookup finds on a disk is
a part of its tree. -/
namespace ChangelogSql.TidyTree
open Files

variable {node : Node} {disk : Disk}

theorem find_eq_none_iff (name : Name) : ∀ entries : Entries,
    entries.find? name = none ↔ name ∉ entries.toList.map Prod.fst
  | .nil => by simp [Entries.find?, Entries.toList]
  | .cons other node rest => by
    by_cases same : other = name
    · simp [Entries.find?, Entries.toList, same]
    · rw [Entries.find?, if_neg same, find_eq_none_iff name rest]
      simp [Entries.toList, Ne.symm same]

theorem names_nodup : ∀ {entries : Entries}, entries.isTidy = true →
    (entries.toList.map Prod.fst).Nodup
  | .nil, _ => .nil
  | .cons name node rest, tidy => by
    obtain ⟨single, -, others⟩ := Entries.isTidy_cons.mp tidy
    rw [Entries.toList, List.map_cons, List.nodup_cons]
    exact ⟨(find_eq_none_iff name rest).mp single, names_nodup others⟩

/-- Among tidy entries, those that are found are those there are. -/
theorem find_eq_some_iff (name : Name) (node : Node) : ∀ {entries : Entries},
    entries.isTidy = true → (entries.find? name = some node ↔ (name, node) ∈ entries.toList)
  | .nil, _ => by simp [Entries.find?, Entries.toList]
  | .cons other node' rest, tidy => by
    obtain ⟨single, -, others⟩ := Entries.isTidy_cons.mp tidy
    by_cases same : other = name
    · subst same
      have absent : (other, node) ∉ rest.toList := fun member =>
        (find_eq_none_iff other rest).mp single (List.mem_map_of_mem member)
      simp [Entries.find?, Entries.toList, absent, eq_comm]
    · rw [Entries.find?, if_neg same, find_eq_some_iff name node others]
      simp [Entries.toList, Ne.symm same]

section Lookups

variable {follow : Bool} {chase : Location → List Bytes → Except Fault Place} {place : Place}
variable {segments : List Bytes} {location : Location}

/-- A place that a walk ends at is as the disk has it, if that holds behind links. -/
theorem walkWith_place (behind : ∀ location segments place, chase location segments = .ok place →
      place.node? = disk.node? place.location)
    (ends : walkWith disk follow chase location segments = .ok place) :
    place.node? = disk.node? place.location := by
  induction segments generalizing location with
  | nil =>
    unfold walkWith at ends
    split at ends
    · cases ends
    next there =>
      cases ends
      exact there.symm
  | cons segment rest ih =>
    unfold walkWith at ends
    split at ends
    · cases ends
    · split at ends
      · exact ih ends
      split at ends
      · exact ih ends
      split at ends
      · cases ends
      split at ends
      · cases ends
      next name _ =>
      dsimp only at ends
      split at ends
      next missing =>
        split at ends
        · cases ends
          exact missing.symm
        · cases ends
      next target there =>
        split at ends
        · cases ends
          exact there.symm
        · exact behind _ _ _ ends
      · exact ih ends
    · cases ends

theorem walk_place {links : Nat} (ends : walk disk follow links location segments = .ok place) :
    place.node? = disk.node? place.location := by
  induction links generalizing location segments place with
  | zero => exact walkWith_place (fun _ _ _ never => by cases never) ends
  | succ links ih => exact walkWith_place (fun _ _ _ behind => ih behind) ends

theorem lookup_place {cwd : Location} {path : Path} (found : disk.lookup follow cwd path = .ok place) :
    place.node? = disk.node? place.location := by
  unfold Disk.lookup at found
  split at found
  · cases found
  split at found
  · cases found
  unfold Disk.search at found
  split at found
  · cases found
  split at found
  · cases found
  exact walk_place found

/-- The place that a path leads to, links followed, if there is one. Nothing need stand
there. -/
def placeOf? (view : View) (path : Path) : Option Location :=
  (view.disk.lookup true view.cwd path).toOption.map Place.location

section Stat
variable {view : View} {path : Path}

theorem placeOf_eq_some_iff {spot : Location} : placeOf? view path = some spot ↔
    ∃ place, view.disk.lookup true view.cwd path = .ok place ∧ place.location = spot := by
  rw [placeOf?]
  cases view.disk.lookup true view.cwd path <;> simp [Except.toOption]

/-- What a path leads to stands at the place that it leads to. -/
theorem stat_eq_ok_iff : view.stat path = .ok node ↔
    ∃ spot, placeOf? view path = some spot ∧ view.disk.node? spot = some node := by
  simp only [placeOf_eq_some_iff]
  rw [View.stat]
  cases found : view.disk.lookup true view.cwd path with
  | error fault => simp [Bind.bind, Except.bind]
  | ok place =>
    simp only [Except.ok.injEq, exists_eq_left', ← lookup_place found]
    cases there : place.node? <;> simp [Bind.bind, Except.bind, there]

theorem isFile_iff : view.isFile path = true ↔
    ∃ spot number, placeOf? view path = some spot ∧ view.disk.node? spot = some (.file number) := by
  have leads : view.isFile path = true ↔ ∃ number, view.stat path = .ok (.file number) := by
    rw [View.isFile]
    split
    next number file => simp [file]
    next other => simpa using other
  simp only [leads, stat_eq_ok_iff]
  exact exists_comm

/-- What a path leads to is tidy. -/
theorem stat_tidy (leads : view.stat path = .ok node) : node.isTidy = true := by
  obtain ⟨spot, -, stands⟩ := stat_eq_ok_iff.mp leads
  exact Disk.node?_isTidy stands

end Stat

/-- A walk that follows a link at its end comes to the same as one that does not,
unless the latter ends at a link. -/
def SameButLinks (unfollowed followed : Except Fault Place) : Prop :=
  followed = unfollowed ∨ ∃ location target, unfollowed = .ok ⟨location, some (.link target)⟩

theorem walkWith_follow {chase' : Location → List Bytes → Except Fault Place}
    (behind : ∀ location segments, SameButLinks (chase location segments) (chase' location segments)) :
    SameButLinks (walkWith disk false chase location segments)
      (walkWith disk true chase' location segments) := by
  induction segments generalizing location with
  | nil =>
    refine .inl ?_
    simp only [walkWith]
  | cons segment rest ih =>
    simp only [walkWith]
    cases disk.node? location with
    | none => exact .inl rfl
    | some node =>
      cases node with
      | directory mode entries =>
        dsimp only
        by_cases quiet : Path.silent segment = true
        · rw [if_pos quiet, if_pos quiet]
          exact ih
        by_cases up : segment = [0x2E, 0x2E]
        · rw [if_neg quiet, if_neg quiet, if_pos up, if_pos up]
          exact ih
        by_cases long : nameLimit < segment.length
        · simp [quiet, up, long, SameButLinks]
        simp only [quiet, up, long, ↓reduceIte]
        cases Name.ofBytes? segment with
        | none => exact .inl rfl
        | some name =>
          dsimp only
          cases disk.node? (location ++ [name]) with
          | none => exact .inl rfl
          | some inner =>
            cases inner with
            | link target =>
              by_cases last : rest = []
              · exact .inr ⟨location ++ [name], target, by simp [last]⟩
              · simpa [last] using behind _ _
            | _ => exact ih
      | _ => exact .inl rfl

theorem walk_follow (links : Nat) :
    SameButLinks (walk disk false links location segments) (walk disk true links location segments) := by
  induction links generalizing location segments with
  | zero => exact walkWith_follow fun _ _ => .inl rfl
  | succ links ih => exact walkWith_follow fun _ _ => ih

/-- Following a link at the end of a path makes a difference only where there is one. -/
theorem stat_eq_linkStat (view : View) (path : Path) :
    view.stat path = view.linkStat path ∨ ∃ target, view.linkStat path = .ok (.link target) := by
  have same : SameButLinks (view.disk.lookup false view.cwd path) (view.disk.lookup true view.cwd path) := by
    unfold Disk.lookup
    split
    · exact .inl rfl
    split
    · exact .inl rfl
    unfold Disk.search
    split
    · exact .inl rfl
    split
    · exact .inl rfl
    exact walk_follow linkLimit
  unfold View.stat View.linkStat
  rcases same with same | ⟨location, target, ends⟩
  · exact .inl (by rw [same])
  · exact .inr ⟨target, by rw [ends]; rfl⟩

end Lookups

end ChangelogSql.TidyTree
