import ChangelogSql.Proofs.DiscoveryExactness

/-! Build output is told by what was joined to the root. Cutting the root off again may
take separators and dots from the ends of what was joined, and these are no part of the
name of build output; so neither the root nor the way it is written has a say. -/
namespace ChangelogSql.BuildOutput
open ChangelogSql.Path Discovery Text PathComponents PathDescent DiscoveryExactness

variable {root rel : Path} {bytes : Bytes}

section Blocks
variable {α : Type} {block front back : List α}

/-- A block does not begin among elements that its first element is not one of. -/
theorem infix_behind (begins : ∀ a ∈ block.head?, a ∉ front) (filled : block ≠ []) :
    block <:+: front ++ back ↔ block <:+: back := by
  induction front with
  | nil => rfl
  | cons a front ih =>
    simp only [List.mem_cons, not_or] at begins
    have apart : ¬ block <+: a :: (front ++ back) := by
      cases block with
      | nil => exact absurd rfl filled
      | cons b block =>
        rw [List.cons_prefix_cons]
        exact fun begun => (begins b rfl).1 begun.1
    rw [List.cons_append, List.infix_cons_iff, or_iff_right apart, ih fun b first => (begins b first).2]

/-- It does not end among elements that its last element is not one of. -/
theorem infix_before (ends : ∀ a ∈ block.getLast?, a ∉ back) (filled : block ≠ []) :
    block <:+: front ++ back ↔ block <:+: front := by
  rw [← List.reverse_infix, List.reverse_append,
    infix_behind (by simpa using ends) (by simpa using filled), List.reverse_infix]

end Blocks

/-- Bytes that silent segments and the separators between them are written with. -/
def Idle (bytes : Bytes) : Prop :=
  ∀ b ∈ bytes, b = separator ∨ b = dot

theorem idle_nil : Idle [] := by
  simp [Idle]

theorem idle_silent {segment : Bytes} (quiet : silent segment = true) : Idle segment := by
  simp only [silent, Bool.or_eq_true, decide_eq_true_eq] at quiet
  rcases quiet with rfl | rfl <;> simp [Idle, dot]

theorem Idle.joined {front back : Bytes} (first : Idle front) (second : Idle back) :
    Idle (front ++ separator :: back) :=
  List.forall_mem_append.mpr ⟨first, List.forall_mem_cons.mpr ⟨.inl rfl, second⟩⟩

/-- Trimming on the right takes idle bytes from the end of what is written. -/
theorem joinWith_trimRight (front segments : List Bytes) :
    ∃ tail, Idle tail ∧
      joinWith separator (front ++ segments) = joinWith separator (front ++ trimRight segments) ++ tail := by
  induction segments using List.reverseRecOn with
  | nil => exact ⟨[], idle_nil, by simp [trimRight]⟩
  | append_singleton segments last ih =>
    cases quiet : silent last with
    | false => exact ⟨[], idle_nil, by rw [trimRight_speaking segments quiet, List.append_nil]⟩
    | true =>
      obtain ⟨tail, idle, written⟩ := ih
      rw [trimRight_silent segments quiet, ← List.append_assoc]
      by_cases first : front ++ segments = []
      · obtain ⟨rfl, rfl⟩ := List.append_eq_nil_iff.mp first
        exact ⟨last, idle_silent quiet, rfl⟩
      · refine ⟨tail ++ separator :: last, idle.joined (idle_silent quiet), ?_⟩
        rw [joinWith_concat separator last first, written, List.append_assoc]

/-- Trimming on the left takes idle bytes from the front. -/
theorem joinWith_trimLeft (segments : List Bytes) :
    ∃ lead, Idle lead ∧
      joinWith separator segments = lead ++ joinWith separator (trimLeft segments) := by
  induction segments with
  | nil => exact ⟨[], idle_nil, rfl⟩
  | cons segment segments ih =>
    cases quiet : silent segment with
    | false => exact ⟨[], idle_nil, by simp [trimLeft, quiet]⟩
    | true =>
      obtain ⟨lead, idle, written⟩ := ih
      have dropped : trimLeft (segment :: segments) = trimLeft segments := by simp [trimLeft, quiet]
      rw [dropped]
      cases segments with
      | nil => exact ⟨segment, idle_silent quiet, by simp [joinWith, trimLeft]⟩
      | cons next segments =>
        refine ⟨segment ++ separator :: lead, (idle_silent quiet).joined idle, ?_⟩
        rw [joinWith, written, List.append_assoc, List.cons_append]

/-- Behind the empty path stands all that was joined, up to idle bytes at its end. -/
private theorem strip_empty (empty : root.bytes = []) (relative : rel.isAbsolute = false) :
    ∃ below tail, (root.join rel).stripBase? root = some below ∧ Idle tail ∧
      rel.bytes = below.bytes ++ tail := by
  have same : root.join rel = rel := by simp [join, relative, empty]
  have nothing : root.components = [] := components_eq_nil_iff.mpr empty
  have below : rel.startsWith root = true := by simp [startsWith, nothing]
  cases cut : rel.parts with | mk anchor segments =>
  obtain ⟨pieces, lead, anchored⟩ : ∃ (pieces : List Bytes) (lead : Bytes), ∀ others,
      (ofParts ⟨anchor, others⟩).bytes = lead ++ joinWith separator (pieces ++ others) := by
    cases anchor with
    | top => exact ⟨[], [separator], fun _ => rfl⟩
    | here => exact ⟨[[0x2E]], [], fun _ => rfl⟩
    | none => exact ⟨[], [], fun _ => rfl⟩
  obtain ⟨tail, idle, written⟩ := joinWith_trimRight pieces segments
  refine ⟨ofParts ⟨anchor, trimRight segments⟩, tail, ?_, idle, ?_⟩
  · simp [stripBase?, same, below, nothing, cut]
  · rw [← ofParts_parts rel, cut, anchored, anchored, written, List.append_assoc]

/-- What is left behind a path of something that was joined to it is what was joined, up to
idle bytes at its ends. -/
theorem strip_join (root : Path) (relative : rel.isAbsolute = false) :
    ∃ below lead tail, (root.join rel).stripBase? root = some below ∧ Idle lead ∧ Idle tail ∧
      rel.bytes = lead ++ (below.bytes ++ tail) := by
  by_cases filled : root.bytes = []
  · obtain ⟨below, tail, stripped, idle, written⟩ := strip_empty filled relative
    exact ⟨below, [], tail, stripped, idle_nil, idle, written⟩
  have start := partsBefore_components root
  have cut := parts_join_relative filled relative
  have below : (root.join rel).startsWith root = true := by
    have whole : (root.join rel).components =
        root.components ++ (splitAt separator rel.bytes).filterMap component? := by
      rw [components, cut, ← start, Parts.components, Parts.components, List.filterMap_append,
        List.append_assoc]
    rw [startsWith, whole, List.isPrefixOf_iff_prefix]
    exact List.prefix_append _ _
  have some : root.components ≠ [] := mt components_eq_nil_iff.mp filled
  obtain ⟨count, counted⟩ := Nat.exists_eq_succ_of_ne_zero (mt List.length_eq_zero_iff.mp some)
  have dropped : (if (partsBefore root).anchor = .none then count + 1 else count) =
      ((partsBefore root).segments.filterMap component?).length := by
    rw [← start, Parts.components, List.length_append] at counted
    cases anchor : (partsBefore root).anchor <;>
      simp [anchor, Anchor.components] at counted ⊢ <;> omega
  obtain ⟨lead, idle, leading⟩ := joinWith_trimLeft (splitAt separator rel.bytes)
  obtain ⟨tail, idle', trailing⟩ := joinWith_trimRight [] (trimLeft (splitAt separator rel.bytes))
  refine ⟨⟨joinWith separator (trimRight (trimLeft (splitAt separator rel.bytes)))⟩, lead, tail, ?_,
    idle, idle', ?_⟩
  · simp only [stripBase?, below, ↓reduceIte, cut, counted, dropped, trimLeft_dropComponents]
    rfl
  · rw [List.nil_append, List.nil_append] at trailing
    rw [← trailing, ← leading, joinWith_splitAt]

/-- No byte of the name of build output is idle, so idle bytes around a text do not matter. -/
theorem output_between {lead middle tail : Bytes} (idle : Idle lead) (idle' : Idle tail) :
    Bytes.ofString buildOutput <:+: (lead ++ (middle ++ tail)).map slashed ↔
      Bytes.ofString buildOutput <:+: middle.map slashed := by
  have kept {bytes : Bytes} (idle : Idle bytes) : Idle (bytes.map slashed) := by
    intro b member
    obtain ⟨b, inside, rfl⟩ := List.mem_map.mp member
    rcases idle b inside with rfl | rfl <;> simp [slashed, separator, dot]
  have filled : Bytes.ofString buildOutput ≠ [] := by decide +kernel
  rw [List.map_append, List.map_append, infix_behind ?_ filled, infix_before ?_ filled]
  · intro b last member
    have ends : (Bytes.ofString buildOutput).getLast? = some 0x73 := by decide +kernel
    cases ends.symm.trans last
    rcases kept idle' _ member with other | other <;> cases other
  · intro b first member
    have begins : (Bytes.ofString buildOutput).head? = some 0x74 := by decide +kernel
    cases begins.symm.trans first
    rcases kept idle _ member with other | other <;> cases other

/-- Whether a path below a root names build output is told by the bytes that were joined to
the root, with each backslash taken for a separator: they name it or they do not, under this
root and under any other, one that lies in build output itself included. Of a path that is
not below the root, all bytes are looked at. -/
theorem output_told_by_rest (relative : rel.isAbsolute = false) (root : Path) :
    (isBuildOutput root (root.join rel) = true ↔
      Bytes.ofString buildOutput <:+: rel.bytes.map slashed) ∧
    (∀ other : Path, isBuildOutput other (other.join rel) = isBuildOutput root (root.join rel)) ∧
    ∀ path : Path, ¬ root.components <+: path.components →
      (isBuildOutput root path = true ↔ Bytes.ofString buildOutput <:+: path.bytes.map slashed) := by
  have told (root : Path) : isBuildOutput root (root.join rel) = true ↔
      Bytes.ofString buildOutput <:+: rel.bytes.map slashed := by
    obtain ⟨below, lead, tail, stripped, idle, idle', written⟩ := strip_join root relative
    rw [isBuildOutput_stripped, stripped, Option.getD_some, written, output_between idle idle']
  refine ⟨told root, fun other => ?_, fun path apart => ?_⟩
  · rw [Bool.eq_iff_iff, told other, told root]
  · have beside : path.startsWith root = false := by
      rwa [← Bool.not_eq_true, startsWith, List.isPrefixOf_iff_prefix]
    rw [isBuildOutput_stripped, stripBase?, beside, if_neg Bool.false_ne_true, Option.getD_none]

/-- A root in build output hides nothing, a backslash in what is joined shows build output, and
a path beside the root is looked at as a whole. -/
theorem nested_root_told :
    let root := Path.ofString "/w/target/classes/app/."
    let shown := Path.ofString "./db//001.xml/."
    let hidden := Path.ofString "./svc/target\\classes-old"
    let beside := Path.ofString "/w/target/classes"
    (shown.isAbsolute = false ∧ isBuildOutput root (root.join shown) = false) ∧
      (hidden.isAbsolute = false ∧ isBuildOutput root (root.join hidden) = true ∧
        isBuildOutput (Path.ofString "") ((Path.ofString "").join hidden) = true) ∧
      ¬ root.components <+: beside.components ∧ isBuildOutput root beside = true := by
  intro root shown hidden beside
  have relative : shown.isAbsolute = false := by decide
  have relative' : hidden.isAbsolute = false := by decide
  have apart : ¬ root.components <+: beside.components := by decide +kernel
  obtain ⟨told, -, whole⟩ := output_told_by_rest relative root
  obtain ⟨told', others, -⟩ := output_told_by_rest relative' root
  have output : isBuildOutput root (root.join hidden) = true := told'.mpr (by decide +kernel)
  refine ⟨⟨relative, ?_⟩, ⟨relative', output, (others _).trans output⟩, apart, ?_⟩
  · exact Bool.eq_false_iff.mpr fun named => absurd (told.mp named) (by decide +kernel)
  · exact (whole beside apart).mpr (by decide +kernel)

end ChangelogSql.BuildOutput
