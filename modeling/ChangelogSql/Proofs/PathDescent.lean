import ChangelogSql.Proofs.PathComponents
import Mathlib.Data.List.Basic

/-! Going down from a path by names, and telling afterwards how one got there.
Whatever spelling one starts from, what is left behind the start are the names. -/
namespace ChangelogSql.PathDescent
open ChangelogSql.Path Files PathComponents

/-- The path one is at after going down from `path` through `names`. -/
def descend (path : Path) (names : Location) : Path :=
  names.foldl (fun path name => path.join ⟨name.bytes⟩) path

/-- The path from some start down through `names`. -/
def relative (names : Location) : Path :=
  ⟨Text.joinWith separator (names.map Name.bytes)⟩

variable {path root : Path} {names : Location} {name : Name} {segments front : List Bytes}

@[simp] theorem descend_nil (path : Path) : descend path [] = path := rfl

@[simp] theorem descend_cons (path : Path) (name : Name) (names : Location) :
    descend path (name :: names) = descend (path.join ⟨name.bytes⟩) names := rfl

@[simp] theorem descend_concat (path : Path) (names : Location) (name : Name) :
    descend path (names ++ [name]) = (descend path names).join ⟨name.bytes⟩ := by
  simp [descend]

/-- A joined name stands at the end, and makes the path longer. -/
theorem join_bytes (path : Path) (name : Name) :
    ∃ front, (path.join ⟨name.bytes⟩).bytes = front ++ name.bytes ∧
      path.bytes.length ≤ front.length := by
  obtain ⟨-, free, speaks, -⟩ := name_speaks name.proper
  have longer : path.bytes.length ≤ (path.join ⟨[]⟩).bytes.length := by
    have blank : isAbsolute ⟨[]⟩ = false := rfl
    rw [join, blank, if_neg Bool.false_ne_true]
    split <;> simp
  exact ⟨_, join_relative path (relative_of_speaking speaks free), longer⟩

/-- Going down makes a path longer. -/
theorem descend_longer (path : Path) (names : Location) :
    path.bytes.length ≤ (descend path names).bytes.length := by
  induction names using List.reverseRecOn with
  | nil => exact Nat.le_refl _
  | append_singleton names name ih =>
    obtain ⟨front, written, longer⟩ := join_bytes (descend path names) name
    rw [descend_concat, written, List.length_append]
    omega

/-- Each name that one goes down through is one component. -/
theorem descend_components (path : Path) (names : Location) :
    (descend path names).components =
      path.components ++ names.map fun name => .normal name.bytes := by
  induction names using List.reverseRecOn with
  | nil => simp
  | append_singleton names name ih => simp [components_join _ _ name.proper, ih]

theorem component_injective : Function.Injective fun name : Name => Component.normal name.bytes :=
  fun _ _ same => Name.ext (Component.normal.inj same)

/-- Below one path, different places have different paths. -/
theorem descend_injective (path : Path) : Function.Injective (descend path) := by
  intro names other same
  have components := congrArg Path.components same
  rw [descend_components, descend_components] at components
  exact component_injective.list_map (List.append_cancel_left components)

/-- A path that ends in a name has no piece to lose in front of the next one. -/
theorem piecesBefore_join (path : Path) (name : Name) :
    piecesBefore (path.join ⟨name.bytes⟩) =
      Text.splitAt separator (path.join ⟨name.bytes⟩).bytes := by
  obtain ⟨filled, free, -, -⟩ := name_speaks name.proper
  obtain ⟨front, written, -⟩ := join_bytes path name
  have some : (path.join ⟨name.bytes⟩).bytes ≠ [] := by simp [written, filled]
  have last : (path.join ⟨name.bytes⟩).bytes.getLast? ≠ Option.some separator := by
    rw [written, List.getLast?_append]
    intro ends
    cases own : name.bytes.getLast? with
    | none => exact filled (List.getLast?_eq_none_iff.mp own)
    | some b =>
      rw [own, Option.some_or] at ends
      exact free (Option.some.inj ends ▸ List.mem_of_getLast? own)
  rw [piecesBefore, if_neg some, if_neg last]

/-- The names that one goes down through are the last pieces of the path. -/
theorem piecesBefore_descend (path : Path) (names : Location) :
    piecesBefore (descend path names) = piecesBefore path ++ names.map Name.bytes := by
  induction names using List.reverseRecOn with
  | nil => simp
  | append_singleton names name ih =>
    obtain ⟨-, free, speaks, -⟩ := name_speaks name.proper
    rw [descend_concat, piecesBefore_join, splitAt_join _ speaks free, ih]
    simp

/-- Only what stands for the anchor is cut from the front of a path's pieces, so
names at their end are segments. -/
theorem parts_of_pieces (filled : names ≠ [])
    (pieces : Text.splitAt separator path.bytes = front ++ names.map Name.bytes) :
    ∃ anchor before, path.parts = ⟨anchor, before ++ names.map Name.bytes⟩ := by
  obtain ⟨name, names, rfl⟩ := List.exists_cons_of_ne_nil filled
  obtain ⟨some, -, speaks, -⟩ := name_speaks name.proper
  have cut (first : Bytes) (quiet : silent first = true) (rest : List Bytes)
      (shape : front ++ (name :: names).map Name.bytes = first :: rest) :
      ∃ before, rest = before ++ (name :: names).map Name.bytes := by
    cases front with
    | nil =>
      simp only [List.nil_append, List.map_cons, List.cons.injEq] at shape
      rw [shape.1, quiet] at speaks
      cases speaks
    | cons _ front =>
      simp only [List.cons_append, List.cons.injEq] at shape
      exact ⟨front, shape.2.symm⟩
  unfold parts
  split
  next segment segments shape =>
    obtain ⟨before, rest⟩ := cut [] rfl _ (pieces.symm.trans shape)
    exact ⟨.top, before, by rw [rest]⟩
  next segments shape =>
    obtain ⟨before, rest⟩ := cut [0x2E] rfl _ (pieces.symm.trans shape)
    exact ⟨.here, before, by rw [rest]⟩
  next shape =>
    obtain ⟨before, rest⟩ := cut [] rfl _ (pieces.symm.trans shape)
    simp at rest
  next => exact ⟨.none, front, by rw [pieces]⟩

/-- Names spell themselves. -/
theorem names_spelled (names : Location) :
    (names.map Name.bytes).filterMap component? = names.map fun name => .normal name.bytes := by
  induction names with
  | nil => rfl
  | cons name names ih =>
    obtain ⟨-, -, -, normal⟩ := name_speaks name.proper
    rw [List.map_cons, List.filterMap_cons_some normal, ih, List.map_cons]

/-- What a path has in front of the names that one went down through spells the
path one started from. -/
theorem parts_descend (root : Path) (names : Location) :
    ∃ anchor front, (descend root names).parts = ⟨anchor, front ++ names.map Name.bytes⟩ ∧
      root.components = anchor.components ++ front.filterMap component? := by
  have shape : ∃ anchor front, (descend root names).parts = ⟨anchor, front ++ names.map Name.bytes⟩ := by
    cases names using List.reverseRecOn with
    | nil => exact ⟨root.parts.anchor, root.parts.segments, by simp⟩
    | append_singleton names name =>
      have pieces : Text.splitAt separator (descend root (names ++ [name])).bytes =
          piecesBefore root ++ (names ++ [name]).map Name.bytes := by
        obtain ⟨-, free, speaks, -⟩ := name_speaks name.proper
        rw [descend_concat, splitAt_join _ speaks free, piecesBefore_descend]
        simp
      exact parts_of_pieces (by simp) pieces
  obtain ⟨anchor, front, cut⟩ := shape
  have whole := descend_components root names
  rw [components, cut, Parts.components, List.filterMap_append, names_spelled, ← List.append_assoc] at whole
  exact ⟨anchor, front, cut, (List.append_cancel_right whole).symm⟩

/-- Dropping the segments that spell some components drops no more than silent
segments besides. -/
theorem trimLeft_dropComponents (front rest : List Bytes) :
    trimLeft (dropComponents (front.filterMap component?).length (front ++ rest)) = trimLeft rest := by
  induction front with
  | nil => simp [dropComponents]
  | cons segment front ih =>
    cases quiet : silent segment with
    | true =>
      rw [List.filterMap_cons_none (component_of_silent quiet), List.cons_append, ← ih]
      cases (front.filterMap component?).length with
      | zero => simp [dropComponents, trimLeft, quiet]
      | succ count => simp [dropComponents, quiet]
    | false =>
      obtain ⟨component, spells⟩ := Option.isSome_iff_exists.mp (component_of_speaking quiet)
      rw [List.filterMap_cons_some spells, List.cons_append, List.length_cons, ← ih]
      simp [dropComponents, quiet]

/-- Names are not trimmed. -/
theorem trim_names (names : Location) :
    trimLeft (names.map Name.bytes) = names.map Name.bytes ∧
      trimRight (names.map Name.bytes) = names.map Name.bytes := by
  have speaks : ∀ segment ∈ names.map Name.bytes, silent segment = false := by
    rintro _ member
    obtain ⟨name, -, rfl⟩ := List.mem_map.mp member
    exact (name_speaks name.proper).2.2.1
  have kept (segments : List Bytes) (speaks : ∀ segment ∈ segments, silent segment = false) :
      segments.dropWhile silent = segments := by
    cases segments with
    | nil => rfl
    | cons segment segments => simp [speaks segment (by simp)]
  refine ⟨kept _ speaks, ?_⟩
  rw [trimRight, kept _ (by simpa using speaks), List.reverse_reverse]

/-- What is left of a path behind the one that one started from are the names that
one went down through, whatever spelling the start has. -/
theorem strip_descend (root : Path) (names : Location) :
    (descend root names).stripBase? root = some (relative names) := by
  obtain ⟨anchor, front, cut, start⟩ := parts_descend root names
  obtain ⟨left, right⟩ := trim_names names
  have below : (descend root names).startsWith root = true := by
    rw [startsWith, descend_components, List.isPrefixOf_iff_prefix]
    exact List.prefix_append _ _
  have sound : Sound ⟨anchor, front ++ names.map Name.bytes⟩ := cut ▸ parts_sound _
  simp only [stripBase?, below, ↓reduceIte, cut]
  split
  next none =>
    rw [start, List.length_append, Nat.add_eq_zero_iff, List.length_eq_zero_iff,
      List.length_eq_zero_iff] at none
    have nowhere : anchor = .none := by
      cases anchor <;> simp_all [Anchor.components]
    have empty : front = [] := by
      cases front with
      | nil => rfl
      | cons segment front =>
        have speaks := component_of_speaking (sound.begun nowhere segment (by simp))
        obtain ⟨component, spells⟩ := Option.isSome_iff_exists.mp speaks
        rw [List.filterMap_cons_some spells] at none
        cases none.2
    rw [nowhere, empty, List.nil_append, right]
    rfl
  next count some =>
    have dropped : (if anchor = .none then count + 1 else count) = (front.filterMap component?).length := by
      rw [start, List.length_append] at some
      cases anchor <;> simp [Anchor.components] at some ⊢ <;> omega
    rw [dropped, trimLeft_dropComponents, left, right]
    rfl

/-- The names are the components of the path behind the start. -/
theorem relative_components (names : Location) :
    (relative names).components = names.map fun name => .normal name.bytes := by
  have sound : Sound ⟨.none, names.map Name.bytes⟩ := by
    refine ⟨?_, fun _ => ?_⟩
    · rintro _ member
      obtain ⟨name, -, rfl⟩ := List.mem_map.mp member
      exact (name_speaks name.proper).2.1
    · intro segment first
      obtain ⟨name, -, rfl⟩ := List.mem_map.mp (List.mem_of_head? first)
      exact (name_speaks name.proper).2.2.1
  exact (components_ofParts sound).trans (names_spelled names)

/-- What stands behind a dot, and holds none itself, is cut off as the extension. -/
theorem cutAtLastDot_append {stem extension : Bytes} (undotted : dot ∉ extension)
    (filled : stem ≠ []) : cutAtLastDot (stem ++ dot :: extension) = (stem, some extension) := by
  have plain : ∀ b ∈ extension.reverse, decide (b ≠ dot) = true := by
    intro b member
    simp only [decide_eq_true_eq]
    rintro rfl
    exact undotted (by simpa using member)
  have written : (stem ++ dot :: extension).reverse = extension.reverse ++ dot :: stem.reverse := by
    simp
  have front : (stem ++ dot :: extension).reverse.takeWhile (· ≠ dot) = extension.reverse := by
    rw [written, List.takeWhile_append_of_pos plain]
    simp
  have back : (stem ++ dot :: extension).reverse.dropWhile (· ≠ dot) = dot :: stem.reverse := by
    rw [written, List.dropWhile_append_of_pos plain]
    simp
  unfold cutAtLastDot
  rw [front, back]
  cases reversed : stem.reverse with
  | nil => exact absurd (List.reverse_eq_nil_iff.mp reversed) filled
  | cons b more => simp [← reversed]

/-- A name is cut at its last dot, unless that dot is the first byte. -/
theorem cutAtLastDot_iff {name extension : Bytes} (undotted : dot ∉ extension) :
    (cutAtLastDot name).2 = some extension ↔ ∃ stem, stem ≠ [] ∧ name = stem ++ dot :: extension := by
  have halves := List.takeWhile_append_dropWhile (p := (· ≠ dot)) (l := name.reverse)
  constructor
  · intro cut
    unfold cutAtLastDot at cut
    split at cut
    · cases cut
    · cases cut
    next d stem single rest =>
      cases cut
      have isDot : d = dot := by
        have head := List.head?_dropWhile_not (· ≠ dot) name.reverse
        rw [rest] at head
        simpa using head
      refine ⟨stem.reverse, by simpa using single, ?_⟩
      rw [rest, isDot] at halves
      have whole := congrArg List.reverse halves
      simp only [List.reverse_append, List.reverse_cons, List.reverse_reverse, List.append_assoc,
        List.singleton_append] at whole
      exact whole.symm
  · rintro ⟨stem, filled, rfl⟩
    rw [cutAtLastDot_append undotted filled]

/-- A path has an extension if its file name ends in it, behind a dot that is not
all there is before it. -/
theorem extension_eq_some_iff {extension : Bytes} (undotted : dot ∉ extension) :
    path.extension? = some extension ↔
      ∃ stem, stem ≠ [] ∧ path.fileName? = some (stem ++ dot :: extension) := by
  unfold extension?
  cases path.fileName? with
  | none => simp
  | some name => simp [cutAtLastDot_iff undotted]

end ChangelogSql.PathDescent
