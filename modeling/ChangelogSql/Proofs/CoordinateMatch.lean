import ChangelogSql.Regular.Meaning
import ChangelogSql.Version
import ChangelogSql.Proofs.LossyText
import Mathlib.Data.List.TakeWhile

/-! A version is told from a listing by a scan for the coordinate. A search for a
regular expression tells the same one: the expression takes the coordinate and as
many version characters as it can, at the first place where it takes anything, and
the version is what it took behind the last colon. -/
namespace ChangelogSql.CoordinateMatch
open Regular Text LossyText Version

/-- The coordinate with any version characters behind it, as an expression is written. -/
def pattern : String :=
  "org\\.liquibase:liquibase-core:jar:[.0-9]*"

/-- A version, digit by digit. -/
def anyVersion : Expression :=
  .repeated 0 none (.one [(46, 46), (48, 57)])

/-- The meaning of an expression that takes a word, and then what another takes. -/
def wordThen (word : List Char) (last : Expression) : Expression :=
  Expression.ofList (word.map (fun c => Expression.character c.toNat) ++ [last])

/-- The numbers of the characters of a text. -/
def subjectOf (chars : List Char) : Subject :=
  (chars.map Char.toNat).toArray

/-- Where an expression takes something of a text: from the first place where it can
to the last place where that can end. -/
def match? (expression : Expression) (subject : Subject) : Option (Nat × Nat) :=
  (List.range (subject.size + 1)).findSome? fun place =>
    (expression.ends subject [place]).getLast?.map fun finish => (place, finish)

/-- What stands behind the last separator. -/
def afterLast? (separator : Char) : List Char → Option (List Char)
  | [] => none
  | c :: chars =>
    match afterLast? separator chars with
    | some behind => some behind
    | none => if c = separator then some chars else none

/-- The version that a search for the pattern finds. There is none if the pattern takes
nothing of the listing, or nothing behind its last colon. -/
def byPattern? (listing : String) : Option String :=
  match Expression.ofText pattern.toList with
  | .error _ => none
  | .ok expression => do
    let (start, finish) ← match? expression (subjectOf listing.toList)
    let behind ← afterLast? ':' ((listing.toList.drop start).take (finish - start))
    if behind = [] then none else some (String.ofList behind)

/-- A text is cut at the leftmost place where a block stands in it. -/
structure CutAtFirst (block whole before behind : List Char) : Prop where
  cut : whole = before ++ block ++ behind
  first : ∀ earlier later, whole = earlier ++ block ++ later → before.length ≤ earlier.length

/-- A text that does not go on with a version character. -/
def EndsRun (behind : List Char) : Prop :=
  ∀ c ∈ behind.head?, isVersionChar c = false

variable {block whole before behind rest run chars word : List Char} {listing version : String}
variable {c separator : Char} {subject : Subject} {expression last : Expression}
variable {place finish : Nat} {places found : Places}

theorem cut_cons (elsewhere : afterBlock? block (c :: whole) = none) :
    (∃ before, CutAtFirst block (c :: whole) before behind) ↔
      ∃ before, CutAtFirst block whole before behind := by
  have later (earlier more : List Char) (cut : c :: whole = earlier ++ block ++ more) :
      ∃ earlier', earlier = c :: earlier' ∧ whole = earlier' ++ block ++ more := by
    cases earlier with
    | nil => simp [afterBlock?_eq_some.mpr (show c :: whole = block ++ more by simpa using cut)] at elsewhere
    | cons d earlier' =>
      simp only [List.cons_append, List.cons.injEq] at cut
      exact ⟨earlier', by rw [cut.1], cut.2⟩
  constructor
  · rintro ⟨before, cut, first⟩
    obtain ⟨before', rfl, cut'⟩ := later before behind cut
    refine ⟨before', cut', fun earlier more other => ?_⟩
    simpa using first (c :: earlier) more (by simp [other])
  · rintro ⟨before, cut, first⟩
    refine ⟨c :: before, by simp [cut], fun earlier more other => ?_⟩
    obtain ⟨earlier', rfl, other'⟩ := later earlier more other
    simpa using first earlier' more other'

/-- A search from the left cuts a text at the first occurrence. -/
theorem afterFirst?_eq_some_iff :
    afterFirst? block whole = some behind ↔ ∃ before, CutAtFirst block whole before behind := by
  have here {rest : List Char} (whole : List Char) (stands : afterBlock? block whole = some rest) :
      rest = behind ↔ ∃ before, CutAtFirst block whole before behind := by
    have cut := afterBlock?_eq_some.mp stands
    constructor
    · rintro rfl
      exact ⟨[], by simpa using cut, by simp⟩
    · rintro ⟨before, cut', first⟩
      have none := first [] rest (by simpa using cut)
      obtain rfl : before = [] := List.eq_nil_of_length_eq_zero (Nat.le_zero.mp none)
      rw [cut, List.nil_append] at cut'
      exact List.append_cancel_left cut'
  induction whole with
  | nil =>
    rw [afterFirst?]
    cases stands : afterBlock? block [] with
    | some rest => rw [Option.some.injEq, here [] stands]
    | none =>
      refine ⟨fun never => (by cases never), ?_⟩
      rintro ⟨before, cut, -⟩
      have empty : before = [] ∧ block = [] := by
        have := cut.symm
        simp only [List.append_eq_nil_iff] at this
        exact this.1
      simp [empty.2, afterBlock?] at stands
  | cons c whole ih =>
    rw [afterFirst?]
    cases stands : afterBlock? block (c :: whole) with
    | some rest => rw [Option.some.injEq, here _ stands]
    | none => exact ih.trans (cut_cons stands).symm

theorem afterFirst?_eq_none_iff : afterFirst? block whole = none ↔ ¬ block <:+: whole := by
  rw [← occursIn_iff, occursIn, Bool.not_eq_true, Option.isSome_eq_false_iff, Option.isNone_iff_eq_none]

/-- What comes behind an occurrence has no part in its being the first. -/
theorem CutAtFirst.swap (cut : CutAtFirst block whole before behind) (other : List Char) :
    CutAtFirst block (before ++ block ++ other) before other := by
  refine ⟨rfl, fun earlier later same => ?_⟩
  by_contra sooner
  have sooner : earlier.length < before.length := by omega
  have inside : earlier ++ block <+: before ++ block := by
    refine List.prefix_of_prefix_length_le ⟨later, same.symm⟩ ⟨other, rfl⟩ ?_
    simp only [List.length_append]
    omega
  obtain ⟨gap, closed⟩ := inside
  have := cut.first earlier (gap ++ behind) (by rw [cut.cut, ← closed]; simp)
  omega

theorem run_eq (plain : ∀ c ∈ run, isVersionChar c = true) (stops : EndsRun behind) :
    (run ++ behind).takeWhile isVersionChar = run := by
  rw [List.takeWhile_append_of_pos plain]
  cases behind with
  | nil => simp
  | cons c behind => simp [stops c rfl]

theorem run_ends (chars : List Char) : EndsRun (chars.dropWhile isVersionChar) := by
  intro c head
  cases rest : chars.dropWhile isVersionChar with
  | nil => simp [rest] at head
  | cons d rest' =>
    have stopped := List.head?_dropWhile_not isVersionChar chars
    rw [rest] at head stopped
    cases head
    simpa using stopped

theorem run_plain : ∀ c ∈ chars.takeWhile isVersionChar, isVersionChar c = true :=
  fun _ member => List.mem_takeWhile_imp member

/-- The listing is cut at its first coordinate, and the version is the run behind it. -/
theorem inListing?_of_cut (cut : CutAtFirst coordinate.toList listing.toList before behind) :
    inListing? listing =
      if behind.takeWhile isVersionChar = [] then none
      else some (String.ofList (behind.takeWhile isVersionChar)) := by
  rw [inListing?, afterFirst?_eq_some_iff.mpr ⟨before, cut⟩]
  dsimp only
  cases behind.takeWhile isVersionChar <;> simp

theorem inListing?_of_absent (absent : ¬ coordinate.toList <:+: listing.toList) :
    inListing? listing = none := by
  rw [inListing?, afterFirst?_eq_none_iff.mpr absent]

/-- A listing has a first coordinate, or none. -/
theorem cut_or_absent (block whole : List Char) :
    (∃ before behind, CutAtFirst block whole before behind) ∨ ¬ block <:+: whole := by
  cases found : afterFirst? block whole with
  | none => exact .inr (afterFirst?_eq_none_iff.mp found)
  | some behind =>
    obtain ⟨before, cut⟩ := afterFirst?_eq_some_iff.mp found
    exact .inl ⟨before, behind, cut⟩

theorem CutAtFirst.occurs (cut : CutAtFirst block whole before behind) : block <:+: whole :=
  ⟨before, behind, cut.cut.symm⟩

theorem CutAtFirst.unique {before' behind' : List Char} (cut : CutAtFirst block whole before behind)
    (cut' : CutAtFirst block whole before' behind') : behind = behind' :=
  Option.some.inj ((afterFirst?_eq_some_iff.mpr ⟨before, cut⟩).symm.trans
    (afterFirst?_eq_some_iff.mpr ⟨before', cut'⟩))

set_option maxRecDepth 20000 in
/-- The pattern is read as the coordinate and any version behind it. -/
theorem pattern_read :
    Expression.ofText pattern.toList = .ok (wordThen coordinate.toList anyVersion) := by
  rfl

theorem iterate_nil {step : Places → Places} (count : Nat) : Places.iterate step count [] = [] := by
  cases count <;> simp [Places.iterate]

theorem closure_nil {step : Places → Places} (still : step [] = []) (rounds : Nat) :
    Places.closure step rounds [] [] = [] := by
  cases rounds <;> simp [Places.closure, still, Places.without]

/-- Nothing leads from nowhere. -/
theorem ends_nil (subject : Subject) (expression : Expression) :
    expression.ends subject [] = [] := by
  induction expression with
  | empty | one | asserted | again => simp [Expression.ends]
  | group _ inner ih => simpa [Expression.ends] using ih
  | sequence first second ihFirst ihSecond => simp [Expression.ends, ihFirst, ihSecond]
  | choice first second ihFirst ihSecond => simp [Expression.ends, ihFirst, ihSecond, Places.union]
  | repeated least most? inner ih =>
    simp only [Expression.ends, iterate_nil]
    exact closure_nil ih _

theorem subject_at : (subjectOf chars)[place]? = (chars.drop place).head?.map Char.toNat := by
  simp [subjectOf, List.head?_drop]

theorem toNat_inj {c d : Char} : c.toNat = d.toNat ↔ c = d :=
  ⟨fun same => Char.ext (UInt32.toNat_inj.mp same), fun same => congrArg Char.toNat same⟩

theorem wordThen_cons :
    wordThen (c :: word) last = .sequence (.character c.toNat) (wordThen word last) := by
  cases word <;> rfl

/-- A word is taken where it stands, and nowhere else. -/
theorem ends_wordThen (word : List Char) (place : Nat) :
    (wordThen word last).ends (subjectOf chars) [place] =
      match afterBlock? word (chars.drop place) with
      | none => []
      | some _ => last.ends (subjectOf chars) [place + word.length] := by
  induction word generalizing place with
  | nil => rfl
  | cons c word ih =>
    rw [wordThen_cons, Expression.ends, Expression.character, Expression.ends]
    simp only [List.filterMap_cons, List.filterMap_nil, subject_at]
    cases rest : chars.drop place with
    | nil => simp [afterBlock?, ends_nil]
    | cons d behind =>
      have next : chars.drop (place + 1) = behind := by
        rw [← List.drop_drop, rest, List.drop_one, List.tail_cons]
      by_cases same : c = d
      · have taken : Ranges.has [(c.toNat, c.toNat)] d.toNat = true := by simp [Ranges.has, same]
        simp only [List.head?_cons, Option.map_some, Option.any_some, taken, if_true, afterBlock?,
          if_pos same, ih, next, List.length_cons]
        rw [Nat.add_assoc, Nat.add_comm 1]
      · have refused : Ranges.has [(c.toNat, c.toNat)] d.toNat = false := by
          rw [Bool.eq_false_iff]
          intro taken
          simp only [Ranges.has, List.any_cons, List.any_nil, Bool.or_false, Bool.and_eq_true,
            decide_eq_true_eq] at taken
          exact same (toNat_inj.mp (by omega))
        simp [refused, ends_nil, afterBlock?, same]

theorem union_later (later : ∀ place ∈ places, place < finish) :
    Places.union places [finish] = places ++ [finish] := by
  induction places with
  | nil => rfl
  | cons place places ih =>
    obtain ⟨less, others⟩ := List.forall_mem_cons.mp later
    have lower : ¬ finish < place := by omega
    have other : ¬ finish = place := by omega
    simp [Places.union, lower, other, ih others]

theorem isVersionChar_iff_has : Ranges.has [(46, 46), (48, 57)] c.toNat = isVersionChar c := by
  have dot : c.toNat = 46 ↔ c = '.' := toNat_inj (d := '.')
  have low : '0' ≤ c ↔ 48 ≤ c.toNat := Iff.rfl
  have high : c ≤ '9' ↔ c.toNat ≤ 57 := Iff.rfl
  rw [Bool.eq_iff_iff]
  simp only [Ranges.has, isVersionChar, List.any_cons, List.any_nil, Bool.or_false, Bool.or_eq_true,
    Bool.and_eq_true, decide_eq_true_eq, ← dot, low, high]
  omega

/-- One more character is taken if it may stand in a version. -/
theorem ends_versionChar (place : Nat) :
    Expression.ends (subjectOf chars) (.one [(46, 46), (48, 57)]) [place] =
      if (chars.drop place).head?.any isVersionChar then [place + 1] else [] := by
  simp only [Expression.ends, List.filterMap_cons, List.filterMap_nil, subject_at]
  cases chars.drop place with
  | nil => rfl
  | cons c behind =>
    simp only [List.head?_cons, Option.map_some, Option.any_some, isVersionChar_iff_has]
    by_cases plain : isVersionChar c = true <;> simp [plain]

/-- Characters are taken one by one, and the last place that is found moves on with
them to where the run ends. -/
theorem closure_run (rounds : Nat) (place : Nat) (found : Places)
    (farthest : found.getLast? = some place) (bounded : ∀ earlier ∈ found, earlier ≤ place)
    (enough : ((chars.drop place).takeWhile isVersionChar).length ≤ rounds) :
    (Places.closure (Expression.ends (subjectOf chars) (.one [(46, 46), (48, 57)])) rounds [place]
      found).getLast? = some (place + ((chars.drop place).takeWhile isVersionChar).length) := by
  induction rounds generalizing place found with
  | zero => rw [Nat.le_zero.mp enough]; exact farthest
  | succ rounds ih =>
    rw [Places.closure, ends_versionChar]
    cases rest : chars.drop place with
    | nil => simpa [Places.without] using farthest
    | cons c behind =>
      cases plain : isVersionChar c with
      | false => simpa [plain, Places.without] using farthest
      | true =>
        have next : chars.drop (place + 1) = behind := by
          rw [← List.drop_drop, rest, List.drop_one, List.tail_cons]
        have new : Places.without [place + 1] found = [place + 1] := by
          have fresh : place + 1 ∉ found := fun old => absurd (bounded _ old) (by omega)
          simp [Places.without, fresh]
        have later : ∀ earlier ∈ found, earlier < place + 1 :=
          fun earlier old => Nat.lt_succ_of_le (bounded earlier old)
        have bounded' : ∀ earlier ∈ found ++ [place + 1], earlier ≤ place + 1 := by
          intro earlier old
          rcases List.mem_append.mp old with old | last
          · exact (later earlier old).le
          · exact (List.mem_singleton.mp last).le
        rw [rest] at enough
        simp only [List.takeWhile_cons, plain, if_true, List.length_cons] at enough ⊢
        simp only [List.head?_cons, Option.any_some, plain, if_true, new, List.cons_ne_nil, if_false,
          union_later later]
        rw [ih (place + 1) _ (by simp) bounded' (by rw [next]; omega), next]
        congr 1
        omega

/-- As many version characters are taken as there are. -/
theorem ends_anyVersion (place : Nat) :
    (anyVersion.ends (subjectOf chars) [place]).getLast? =
      some (place + ((chars.drop place).takeWhile isVersionChar).length) := by
  have enough : ((chars.drop place).takeWhile isVersionChar).length ≤ (subjectOf chars).size + 1 := by
    have run := (List.takeWhile_prefix isVersionChar (l := chars.drop place)).length_le
    simp only [List.length_drop] at run
    simp only [subjectOf, List.size_toArray, List.length_map]
    omega
  rw [anyVersion, Expression.ends]
  exact closure_run _ place [place] rfl (by simp) enough

/-- Where the word stands, it is taken with the version behind it. -/
theorem finish_at (word : List Char) (place : Nat) :
    ((wordThen word anyVersion).ends (subjectOf chars) [place]).getLast? =
      (afterBlock? word (chars.drop place)).map fun behind =>
        place + word.length + (behind.takeWhile isVersionChar).length := by
  rw [ends_wordThen]
  cases stands : afterBlock? word (chars.drop place) with
  | none => rfl
  | some behind =>
    have rest : chars.drop (place + word.length) = behind := by
      rw [← List.drop_drop, afterBlock?_eq_some.mp stands, List.drop_left]
    rw [Option.map_some, ← rest]
    exact ends_anyVersion _

theorem findSome?_range {α : Type} {f : Nat → Option α} {value : α} {size : Nat} (place : Nat)
    (within : place < size) (taken : f place = some value) (first : ∀ earlier < place, f earlier = none) :
    (List.range size).findSome? f = some value := by
  obtain ⟨more, rfl⟩ : ∃ more, size = place + (more + 1) := ⟨size - place - 1, by omega⟩
  have none : (List.range place).findSome? f = none := by simpa using first
  simp [List.range_add, List.findSome?_append, none, List.range_succ_eq_map, taken]

/-- The pattern takes the first coordinate with the run behind it. -/
theorem match?_of_cut (cut : CutAtFirst word chars before behind) :
    match? (wordThen word anyVersion) (subjectOf chars) =
      some (before.length,
        before.length + word.length + (behind.takeWhile isVersionChar).length) := by
  have there : afterBlock? word (chars.drop before.length) = some behind :=
    afterBlock?_eq_some.mpr (by rw [cut.cut, List.append_assoc, List.drop_left])
  refine findSome?_range before.length ?_ ?_ fun earlier sooner => ?_
  · have size := congrArg List.length cut.cut
    simp only [List.length_append] at size
    simp only [subjectOf, List.size_toArray, List.length_map]
    omega
  · rw [finish_at, there]
    rfl
  · rw [finish_at]
    cases stands : afterBlock? word (chars.drop earlier) with
    | none => rfl
    | some rest =>
      have split : chars = chars.take earlier ++ word ++ rest := by
        rw [List.append_assoc, ← afterBlock?_eq_some.mp stands, List.take_append_drop]
      have late := cut.first _ _ split
      rw [List.length_take] at late
      omega

theorem match?_of_absent (absent : ¬ word <:+: chars) :
    match? (wordThen word anyVersion) (subjectOf chars) = none := by
  rw [match?, List.findSome?_eq_none_iff]
  intro place _
  rw [finish_at]
  cases stands : afterBlock? word (chars.drop place) with
  | none => rfl
  | some behind =>
    refine absurd ⟨chars.take place, behind, ?_⟩ absent
    rw [List.append_assoc, ← afterBlock?_eq_some.mp stands, List.take_append_drop]

theorem afterLast?_eq_none (absent : separator ∉ chars) : afterLast? separator chars = none := by
  induction chars with
  | nil => rfl
  | cons c chars ih =>
    rw [List.mem_cons, not_or] at absent
    simp [afterLast?, ih absent.2, Ne.symm absent.1]

/-- What holds no separator stands behind the last one. -/
theorem afterLast?_append (absent : separator ∉ behind) :
    afterLast? separator (before ++ separator :: behind) = some behind := by
  induction before with
  | nil => simp [afterLast?, afterLast?_eq_none absent]
  | cons c before ih => rw [List.cons_append, afterLast?, ih]

/-- A version is made of dots and digits only. -/
theorem isVersionChar_iff : isVersionChar c = true ↔ c = '.' ∨ c.isDigit = true := by
  rw [isVersionChar, Char.isDigit]
  simp only [Bool.or_eq_true, Bool.and_eq_true, decide_eq_true_eq]
  rfl

theorem not_mem_run (plain : ∀ c ∈ run, isVersionChar c = true) (foreign : isVersionChar c = false) :
    c ∉ run := by
  intro member
  rw [plain c member] at foreign
  cases foreign

/-- What the pattern takes is the coordinate, which ends in a colon, and a run without one. -/
theorem byPattern?_of_cut (cut : CutAtFirst coordinate.toList listing.toList before behind) :
    byPattern? listing =
      if behind.takeWhile isVersionChar = [] then none
      else some (String.ofList (behind.takeWhile isVersionChar)) := by
  have closed : coordinate.toList = coordinate.toList.dropLast ++ [':'] := rfl
  have taken : (listing.toList.drop before.length).take
      (before.length + coordinate.toList.length + (behind.takeWhile isVersionChar).length -
        before.length) =
      coordinate.toList.dropLast ++ ':' :: behind.takeWhile isVersionChar := by
    rw [cut.cut, List.append_assoc, List.drop_left, Nat.add_assoc, Nat.add_sub_cancel_left,
      List.take_length_add_append, ← (List.prefix_iff_eq_take.mp (List.takeWhile_prefix _)), closed]
    simp
  have colonless : ':' ∉ behind.takeWhile isVersionChar := not_mem_run run_plain (by decide)
  unfold byPattern?
  simp only [pattern_read, match?_of_cut cut, Option.bind_eq_bind, Option.bind_some, taken,
    afterLast?_append colonless]

theorem byPattern?_of_absent (absent : ¬ coordinate.toList <:+: listing.toList) :
    byPattern? listing = none := by
  unfold byPattern?
  simp only [pattern_read, match?_of_absent absent, Option.bind_eq_bind, Option.bind_none]

theorem cut_run (cut : CutAtFirst block whole before behind) :
    CutAtFirst block whole before
      (behind.takeWhile isVersionChar ++ behind.dropWhile isVersionChar) := by
  rwa [List.takeWhile_append_dropWhile]

/-- The version is the whole run behind the first coordinate. -/
theorem inListing?_eq_some_iff : inListing? listing = some version ↔
    version ≠ "" ∧ ∃ before behind,
      CutAtFirst coordinate.toList listing.toList before (version.toList ++ behind) ∧
        (∀ c ∈ version.toList, isVersionChar c = true) ∧ EndsRun behind := by
  constructor
  · intro found
    rcases cut_or_absent coordinate.toList listing.toList with ⟨before, behind, cut⟩ | absent
    · rw [inListing?_of_cut cut] at found
      split at found
      · cases found
      next filled =>
        cases found
        refine ⟨by simpa using filled, before, _, ?_, ?_, run_ends behind⟩
        · simpa using cut_run cut
        · simpa using run_plain
    · rw [inListing?_of_absent absent] at found
      cases found
  · rintro ⟨filled, before, behind, cut, plain, stops⟩
    rw [inListing?_of_cut cut, run_eq plain stops, if_neg (by simpa using filled), String.ofList_toList]

theorem inListing?_eq_none_iff : inListing? listing = none ↔
    ¬ coordinate.toList <:+: listing.toList ∨
      ∃ before behind, CutAtFirst coordinate.toList listing.toList before behind ∧ EndsRun behind := by
  rcases cut_or_absent coordinate.toList listing.toList with ⟨before, behind, cut⟩ | absent
  · rw [inListing?_of_cut cut]
    constructor
    · intro none
      split at none
      next empty =>
        have whole := List.takeWhile_append_dropWhile (p := isVersionChar) (l := behind)
        rw [empty, List.nil_append] at whole
        exact .inr ⟨before, behind, cut, whole ▸ run_ends behind⟩
      · cases none
    · rintro (absent | ⟨before', behind', cut', stops⟩)
      · exact absurd cut.occurs absent
      · have empty : ([] ++ behind').takeWhile isVersionChar = [] := run_eq (by simp) stops
        rw [cut.unique cut', ← List.nil_append behind', if_pos empty]
  · simp [inListing?_of_absent absent, absent]

/-- A scan for the coordinate finds the version that a search for the pattern finds:
the longest run of dots and digits behind the first coordinate. If that run is empty
there is no version, whatever comes later, and what comes behind the run makes no
difference. -/
theorem version_by_pattern (listing : String) :
    inListing? listing = byPattern? listing ∧
      (∀ version, inListing? listing = some version ↔
        version ≠ "" ∧ ∃ before behind,
          CutAtFirst coordinate.toList listing.toList before (version.toList ++ behind) ∧
            (∀ c ∈ version.toList, isVersionChar c = true) ∧ EndsRun behind) ∧
      (inListing? listing = none ↔
        ¬ coordinate.toList <:+: listing.toList ∨
          ∃ before behind,
            CutAtFirst coordinate.toList listing.toList before behind ∧ EndsRun behind) ∧
      (∀ version, inListing? listing = some version →
        version ≠ "" ∧ (∀ c ∈ version.toList, c = '.' ∨ c.isDigit = true) ∧
          ':' ∉ version.toList ∧ '\n' ∉ version.toList ∧ '\r' ∉ version.toList) ∧
      ∀ before run behind other,
        CutAtFirst coordinate.toList listing.toList before (run ++ behind) →
          (∀ c ∈ run, isVersionChar c = true) → EndsRun behind → EndsRun other →
            inListing? (String.ofList (before ++ coordinate.toList ++ (run ++ other))) =
              inListing? listing := by
  refine ⟨?_, fun version => inListing?_eq_some_iff, inListing?_eq_none_iff, ?_, ?_⟩
  · rcases cut_or_absent coordinate.toList listing.toList with ⟨before, behind, cut⟩ | absent
    · rw [inListing?_of_cut cut, byPattern?_of_cut cut]
    · rw [inListing?_of_absent absent, byPattern?_of_absent absent]
  · intro version found
    obtain ⟨filled, -, -, -, plain, -⟩ := inListing?_eq_some_iff.mp found
    refine ⟨filled, fun c member => isVersionChar_iff.mp (plain c member), ?_, ?_, ?_⟩
    all_goals exact not_mem_run plain (by decide)
  · intro before run behind other cut plain stops stops'
    have cut' : CutAtFirst coordinate.toList
        (String.ofList (before ++ coordinate.toList ++ (run ++ other))).toList before
        (run ++ other) := by
      rw [String.toList_ofList]
      exact cut.swap (run ++ other)
    rw [inListing?_of_cut cut, inListing?_of_cut cut', run_eq plain stops, run_eq plain stops']

/-- A coordinate without a version hides one that comes later. -/
example : inListing? "org.liquibase:liquibase-core:jar:, org.liquibase:liquibase-core:jar:4.1" = none := by
  decide

end ChangelogSql.CoordinateMatch
