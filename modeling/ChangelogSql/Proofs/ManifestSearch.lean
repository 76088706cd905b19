import ChangelogSql.Proofs.PathComponents

/-! The search for a manifest, for every spelling of the path it starts from and of the
root. What is searched is what lies above the start, one directory after the other, each
with a component less. These are exactly the paths that the start goes through, so those
within the root come first and the search, which stops at the first one outside, misses
none of them. -/
namespace ChangelogSql.ManifestSearch
open ChangelogSql.Path Files PathComponents

/-- One comes from a path to another by taking its last component away, any number of
times. -/
inductive Above (start : Path) : Path → Prop
  | itself : Above start start
  | up {dir parent} (below : Above start dir) (lost : dir.parent? = some parent) : Above start parent

/-- A directory above the start, or the start itself, that lies within the root and has a
manifest, while nothing longer that lies above the start has one. -/
structure NearestAbove (view : View) (start root dir : Path) : Prop where
  above : Above start dir
  within : root.components <+: dir.components
  holds : view.isFile (dir.join Manifest.fileName) = true
  nearest : ∀ lower, Above start lower → dir.components.length < lower.components.length →
    view.isFile (lower.join Manifest.fileName) = false

variable {start root path dir lower parent other : Path} {view : View} {front : List Component}

theorem startsWith_iff : dir.startsWith root = true ↔ root.components <+: dir.components := by
  rw [startsWith, List.isPrefixOf_iff_prefix]

/-- A parent has one component less. -/
theorem parent_length (lost : path.parent? = some parent) :
    path.components.length = parent.components.length + 1 := by
  have filled : path.components ≠ [] := by
    intro empty
    rw [parent_eq_none_iff.mpr (.inl empty)] at lost
    cases lost
  have counted := List.length_pos_iff.mpr filled
  rw [parent_components lost, List.length_dropLast]
  omega

theorem parent_begins (lost : path.parent? = some parent) :
    parent.components <+: path.components := by
  rw [parent_components lost]
  exact List.dropLast_prefix _

/-- What a path goes through before its end, its parent goes through. -/
theorem through_parent (through : front <+: path.components) (before : front ≠ path.components)
    (lost : path.parent? = some parent) : front <+: parent.components := by
  refine List.prefix_of_prefix_length_le through (parent_begins lost) ?_
  have short : front.length ≠ path.components.length := mt through.eq_of_length before
  have length := through.length_le
  rw [parent_length lost] at short length
  omega

theorem Above.trans (first : Above start dir) (further : Above dir other) : Above start other := by
  induction further with
  | itself => exact first
  | up below lost ih => exact .up ih lost

theorem Above.begins (above : Above start dir) : dir.components <+: start.components := by
  induction above with
  | itself => exact List.prefix_refl _
  | up below lost ih => exact (parent_begins lost).trans ih

/-- What lies above a path is the path itself, or lies above its parent. -/
theorem Above.first (above : Above start dir) :
    dir = start ∨ ∃ parent, start.parent? = some parent ∧ Above parent dir := by
  induction above with
  | itself => exact .inl rfl
  | up below lost ih =>
    rcases ih with rfl | ⟨parent, lost', above⟩
    · exact .inr ⟨_, lost, .itself⟩
    · exact .inr ⟨parent, lost', .up above lost⟩

/-- The paths above one are the path and those above its parent. -/
theorem ancestors_eq (path : Path) :
    path.ancestors = path :: (path.parent?.map ancestors).getD [] := by
  cases lost : path.parent? with
  | none =>
    rw [ancestors]
    cases path.components.length with
    | zero => rfl
    | succ fuel => simp [ancestorsWithin, lost]
  | some parent =>
    rw [ancestors, parent_length lost, ancestorsWithin, lost]
    rfl

/-- What holds of a path if it holds of its parent, should there be one, holds of every
path. -/
theorem upward {motive : Path → Prop}
    (step : ∀ path, (∀ parent, path.parent? = some parent → motive parent) → motive path)
    (path : Path) : motive path := by
  induction size : path.components.length generalizing path with
  | zero =>
    refine step path fun parent lost => ?_
    rw [parent_length lost] at size
    cases size
  | succ count ih =>
    refine step path fun parent lost => ih parent ?_
    rw [parent_length lost] at size
    exact Nat.succ.inj size

/-- One can go up to every path that the start goes through, but not past the top. -/
theorem above_through (through : front <+: start.components)
    (left : front = [] → start.components.head? ≠ some .top) :
    ∃ dir, Above start dir ∧ dir.components = front := by
  induction start using upward with
  | step path ih =>
    by_cases whole : front = path.components
    · exact ⟨path, .itself, whole.symm⟩
    cases lost : path.parent? with
    | none =>
      rcases parent_eq_none_iff.mp lost with empty | top
      · rw [empty, List.prefix_nil] at through
        exact absurd (through.trans empty.symm) whole
      · rw [top] at through whole left
        rcases List.prefix_cons_iff.mp through with rfl | ⟨more, rfl, further⟩
        · exact absurd rfl (left rfl)
        · exact absurd (by rw [List.prefix_nil.mp further]) whole
    | some parent =>
      have left' : front = [] → parent.components.head? ≠ some .top := by
        intro empty top
        obtain ⟨more, spelled⟩ := List.head?_eq_some_iff.mp top
        obtain ⟨rest, whole⟩ := parent_begins lost
        rw [← whole, spelled] at left
        exact left empty rfl
      obtain ⟨dir, above, reached⟩ := ih parent lost (through_parent through whole lost) left'
      exact ⟨dir, (Above.up .itself lost).trans above, reached⟩

/-- The top is not left. -/
theorem above_top (fromTop : start.components.head? = some .top) (above : Above start dir) :
    dir.components ≠ [] := by
  obtain ⟨more, spelled⟩ := List.head?_eq_some_iff.mp fromTop
  cases above with
  | itself => simp [spelled]
  | @up lower _ below lost =>
    intro empty
    have single : lower.components.length = 1 := by rw [parent_length lost, empty]; rfl
    obtain ⟨component, alone⟩ := List.length_eq_one_iff.mp single
    have beginning := below.begins
    rw [alone, spelled, List.cons_prefix_cons] at beginning
    rw [parent_eq_none_iff.mpr (.inr (alone.trans (by rw [beginning.1])))] at lost
    cases lost

/-- What lies above a path are, step by step, the paths that it goes through. -/
theorem above_iff : (∃ dir, Above start dir ∧ dir.components = front) ↔
    front <+: start.components ∧ (front = [] → start.components.head? ≠ some .top) := by
  constructor
  · rintro ⟨dir, above, rfl⟩
    exact ⟨above.begins, fun empty fromTop => above_top fromTop above empty⟩
  · rintro ⟨through, left⟩
    exact above_through through left

theorem mem_ancestors_iff : dir ∈ start.ancestors ↔ Above start dir := by
  induction start using upward with
  | step path ih =>
    rw [ancestors_eq]
    cases lost : path.parent? with
    | none =>
      simp only [Option.map_none, Option.getD_none, List.mem_singleton]
      refine ⟨fun same => same ▸ .itself, fun above => ?_⟩
      rcases above.first with same | ⟨parent, lost', -⟩
      · exact same
      · rw [lost] at lost'
        cases lost'
    | some parent =>
      simp only [Option.map_some, Option.getD_some, List.mem_cons, ih parent lost]
      constructor
      · rintro (rfl | above)
        · exact .itself
        · exact (Above.up .itself lost).trans above
      · intro above
        rcases above.first with same | ⟨parent', lost', above'⟩
        · exact .inl same
        · rw [lost] at lost'
          cases lost'
          exact .inr above'

/-- From one path that is searched to the next components are lost. -/
theorem ancestors_shorten (path : Path) : path.ancestors.Pairwise fun dir above =>
    above.components <+: dir.components ∧ above.components.length < dir.components.length := by
  induction path using upward with
  | step path ih =>
    rw [ancestors_eq]
    cases lost : path.parent? with
    | none => simp
    | some parent =>
      refine List.pairwise_cons.mpr ⟨fun above member => ?_, ih parent lost⟩
      have beyond := (mem_ancestors_iff.mp member).begins
      have shorter := beyond.length_le
      refine ⟨beyond.trans (parent_begins lost), ?_⟩
      rw [parent_length lost]
      omega

/-- The directories that are searched are those above the start that lie within the root:
once one lies outside, so does everything above it. -/
theorem directories_eq_filter (start root : Path) :
    Manifest.directories start root = start.ancestors.filter (·.startsWith root) := by
  rw [Manifest.directories]
  induction start using upward with
  | step path ih =>
    rw [ancestors_eq, List.takeWhile_cons, List.filter_cons]
    split
    next within =>
      congr 1
      cases lost : path.parent? with
      | none => rfl
      | some parent => exact ih parent lost
    next outside =>
      have order := ancestors_shorten path
      rw [ancestors_eq, List.pairwise_cons] at order
      refine (List.filter_eq_nil_iff.mpr fun above member within => outside ?_).symm
      exact startsWith_iff.mpr ((startsWith_iff.mp within).trans (order.1 above member).1)

theorem mem_directories_iff : dir ∈ Manifest.directories start root ↔
    Above start dir ∧ root.components <+: dir.components := by
  rw [directories_eq_filter, List.mem_filter, mem_ancestors_iff, startsWith_iff]

theorem directories_shorten (start root : Path) :
    (Manifest.directories start root).Pairwise fun dir above =>
      above.components.length < dir.components.length := by
  rw [directories_eq_filter]
  exact ((ancestors_shorten start).imp And.right).filter _

/-- Nothing is searched exactly if the start is not within the root. -/
theorem directories_eq_nil_iff :
    Manifest.directories start root = [] ↔ ¬ root.components <+: start.components := by
  rw [List.eq_nil_iff_forall_not_mem]
  constructor
  · intro nowhere within
    exact nowhere start (mem_directories_iff.mpr ⟨.itself, within⟩)
  · intro outside dir member
    obtain ⟨above, within⟩ := mem_directories_iff.mp member
    exact outside (within.trans above.begins)

/-- A path whose text goes on in the last segment of the root is not within the root. -/
theorem outside_of_continued {b : UInt8} {rest last : Bytes}
    (ending : (Text.splitAt separator root.bytes).getLast? = some last) (speaks : silent last = false)
    (inside : b ≠ separator) (goesOn : start.bytes = root.bytes ++ b :: rest) :
    ¬ root.components <+: start.components := by
  obtain ⟨pieces, cut⟩ := List.getLast?_eq_some_iff.mp ending
  obtain ⟨first, more, continued⟩ :
      ∃ first more, Text.splitAt separator (b :: rest) = (b :: first) :: more := by
    obtain ⟨first, more, inner⟩ := List.exists_cons_of_ne_nil (Text.splitAt_ne_nil separator rest)
    exact ⟨first, more, by simp [Text.splitAt, inside, inner]⟩
  have longer : Text.splitAt separator start.bytes = pieces ++ (last ++ b :: first) :: more := by
    rw [goesOn, splitAt_continued separator cut continued]
  have speaks' : silent (last ++ b :: first) = false := by
    cases last with
    | nil => simp at speaks
    | cons a last => simp [silent]
  have same : anchorOf (pieces ++ [last]) = anchorOf (pieces ++ (last ++ b :: first) :: more) := by
    by_cases none : pieces = []
    · rw [none, List.nil_append, List.nil_append, anchorOf_speaking speaks, anchorOf_speaking speaks']
    by_cases fromTop : pieces = [[]]
    · rw [fromTop]
      rfl
    rw [anchorOf_append _ _ none fromTop, anchorOf_append _ _ none fromTop]
  obtain ⟨component, named⟩ := Option.isSome_iff_exists.mp (component_of_speaking speaks)
  obtain ⟨component', named'⟩ := Option.isSome_iff_exists.mp (component_of_speaking speaks')
  intro within
  rw [components_eq root, components_eq start, cut, longer, same, List.filterMap_append,
    List.filterMap_append, List.prefix_append_right_inj, List.prefix_append_right_inj,
    List.filterMap_cons_some named, List.filterMap_cons_some named', List.cons_prefix_cons] at within
  have segments := component?_inj named (within.1 ▸ named')
  simp at segments

/-- A name that goes on is another name, while idle separators and dots say nothing. -/
example : Manifest.directories (ofString "/r/ab") (ofString "/r/a") = [] ∧
    Manifest.directories (ofString "/r//a/./b/") (ofString "/r/a/.") =
      [ofString "/r//a/./b/", ofString "/r//a"] := by
  decide

/-- The last directory that is searched is the root, unless the root has no components and
the start is a path from the top. -/
theorem last_directory (last : (Manifest.directories start root).getLast? = some dir) :
    dir.components = root.components ∨ root.components = [] ∧ dir.components = [.top] := by
  obtain ⟨lower, searched⟩ := List.getLast?_eq_some_iff.mp last
  obtain ⟨above, within⟩ := mem_directories_iff.mp (List.mem_of_getLast? last)
  by_cases reached : root.components = dir.components
  · exact .inl reached.symm
  cases lost : dir.parent? with
  | none =>
    rcases parent_eq_none_iff.mp lost with empty | top
    · rw [empty, List.prefix_nil] at within
      exact absurd (within.trans empty.symm) reached
    · rw [top] at within reached
      rcases List.prefix_cons_iff.mp within with empty | ⟨more, spelled, further⟩
      · exact .inr ⟨empty, top⟩
      · rw [List.prefix_nil.mp further] at spelled
        exact absurd spelled reached
  | some parent =>
    have later : parent ∈ Manifest.directories start root :=
      mem_directories_iff.mpr ⟨.up above lost, through_parent within reached lost⟩
    have order := directories_shorten start root
    have shorter := parent_length lost
    rw [searched] at later order
    rcases List.mem_append.mp later with before | same
    · have longer := (List.pairwise_append.mp order).2.2 parent before dir (by simp)
      omega
    · obtain rfl := List.mem_singleton.mp same
      omega

/-- The first directory searched that has a manifest is the longest one that has one. -/
theorem first_iff : (Manifest.directories start root).find?
      (fun dir => view.isFile (dir.join Manifest.fileName)) = some dir ↔
    NearestAbove view start root dir := by
  have order := directories_shorten start root
  rw [List.find?_eq_some_iff_append]
  constructor
  · rintro ⟨holds, before, after, searched, none⟩
    have found : dir ∈ Manifest.directories start root := by simp [searched]
    obtain ⟨above, within⟩ := mem_directories_iff.mp found
    refine ⟨above, within, holds, fun lower above' longer => ?_⟩
    have through : dir.components <+: lower.components :=
      List.prefix_of_prefix_length_le above.begins above'.begins (by omega)
    have member : lower ∈ Manifest.directories start root :=
      mem_directories_iff.mpr ⟨above', within.trans through⟩
    rw [searched] at member order
    have behind := (List.pairwise_cons.mp (List.pairwise_append.mp order).2.1).1
    rcases List.mem_append.mp member with early | late
    · simpa using none lower early
    · rcases List.mem_cons.mp late with rfl | late
      · omega
      · have shorter := behind lower late
        omega
  · intro nearest
    obtain ⟨before, after, searched⟩ := List.append_of_mem
      (mem_directories_iff.mpr ⟨nearest.above, nearest.within⟩)
    refine ⟨nearest.holds, before, after, searched, fun lower early => ?_⟩
    have member : lower ∈ Manifest.directories start root := by
      rw [searched]
      exact List.mem_append_left _ early
    rw [searched] at order
    have longer := (List.pairwise_append.mp order).2.2 lower early dir (by simp)
    rw [nearest.nearest lower (mem_directories_iff.mp member).1 longer]
    rfl

/-- The manifest that is found is the one in the nearest directory above that has one. -/
theorem nearest_iff {manifest : Path} : Manifest.nearest? view start root = some manifest ↔
    ∃ dir, NearestAbove view start root dir ∧ manifest = dir.join Manifest.fileName := by
  rw [Manifest.nearest?, List.find?_map, Option.map_eq_some_iff]
  constructor
  · rintro ⟨dir, first, rfl⟩
    exact ⟨dir, first_iff.mp first, rfl⟩
  · rintro ⟨dir, nearest, rfl⟩
    exact ⟨dir, first_iff.mpr nearest, rfl⟩

/-- The manifest that is found is that of the longest directory above the start, the start
included, that lies within the root and has one, and there is none to be found if there is no
such directory. What is searched is all that lies above the start within the root, the longest
first and the root last; from outside of the root nothing is searched, be the text of the root
the beginning of that of the start or not. What is called like a manifest and is a directory
does not count. -/
theorem manifest_search_exact (view : View) (start root : Path) :
    ((∀ manifest, Manifest.nearest? view start root = some manifest ↔
        ∃ dir, NearestAbove view start root dir ∧ manifest = dir.join Manifest.fileName) ∧
      (Manifest.nearest? view start root = none ↔ ∀ dir, ¬ NearestAbove view start root dir)) ∧
    ((∀ front, (∃ dir, Above start dir ∧ dir.components = front) ↔
        front <+: start.components ∧ (front = [] → start.components.head? ≠ some .top)) ∧
      (∀ dir, dir ∈ Manifest.directories start root ↔
        Above start dir ∧ root.components <+: dir.components) ∧
      ((Manifest.directories start root).Pairwise fun dir above =>
        above.components.length < dir.components.length) ∧
      ∀ dir, (Manifest.directories start root).getLast? = some dir →
        dir.components = root.components ∨ root.components = [] ∧ dir.components = [.top]) ∧
    ((¬ root.components <+: start.components → Manifest.directories start root = [] ∧
        ∀ view, Manifest.nearest? view start root = none) ∧
      ∀ b rest last, b ≠ separator → start.bytes = root.bytes ++ b :: rest →
        (Text.splitAt separator root.bytes).getLast? = some last → silent last = false →
        Manifest.directories start root = []) ∧
    ∀ dir, view.isDirectory (dir.join Manifest.fileName) = true →
      ¬ NearestAbove view start root dir := by
  refine ⟨⟨fun manifest => nearest_iff, ?_⟩, ⟨fun front => above_iff, fun dir => mem_directories_iff,
    directories_shorten start root, fun dir => last_directory⟩, ⟨fun outside => ?_, ?_⟩, ?_⟩
  · rw [Option.eq_none_iff_forall_ne_some]
    constructor
    · intro none dir nearest
      exact none _ (nearest_iff.mpr ⟨dir, nearest, rfl⟩)
    · intro none manifest found
      obtain ⟨dir, nearest, -⟩ := nearest_iff.mp found
      exact none dir nearest
  · have nowhere := directories_eq_nil_iff.mpr outside
    refine ⟨nowhere, fun view => ?_⟩
    rw [Manifest.nearest?, nowhere]
    rfl
  · intro b rest last inside goesOn ending speaks
    exact directories_eq_nil_iff.mpr (outside_of_continued ending speaks inside goesOn)
  · intro dir directory nearest
    have holds := nearest.holds
    unfold View.isFile at holds
    unfold View.isDirectory at directory
    split at holds
    next number there =>
      rw [there] at directory
      cases directory
    next => cases holds

end ChangelogSql.ManifestSearch
