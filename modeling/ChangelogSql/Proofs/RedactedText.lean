import ChangelogSql.Proofs.LossyText
import ChangelogSql.Proofs.PlacePaths
import ChangelogSql.Sandbox.Basic

/-! Texts in which paths were replaced by labels. A label stands in brackets, which no path
has, so whatever of a path stands in a text after a replacement stood there before, in one
piece. Hence a later replacement brings back nothing that an earlier one took away, in
whatever way the paths overlap. -/
namespace ChangelogSql.RedactedText
open Files Text LossyText PlacePaths

variable {α : Type} {piece label front back : List α} {opening closing : α}

/-- What begins a text, and does not have the element that ends the front of it, begins the front. -/
theorem prefix_closed (plain : closing ∉ piece) (begun : piece <+: front ++ closing :: back) :
    piece <+: front := by
  refine (List.prefix_or_prefix_of_prefix begun (List.prefix_append front _)).elim id fun longer => ?_
  obtain ⟨further, rfl⟩ := longer
  rw [List.prefix_append_right_inj] at begun
  cases further with
  | nil => simp
  | cons a further =>
    obtain ⟨rfl, -⟩ := List.cons_prefix_cons.mp begun
    exact absurd (by simp) plain

/-- What stands in a text, and does not have an element, stands on one side of that element. -/
theorem infix_closed (plain : closing ∉ piece) (stands : piece <:+: front ++ closing :: back) :
    piece <:+: front ∨ piece <:+: back := by
  induction front with
  | nil =>
    rcases List.infix_cons_iff.mp stands with begun | later
    · rw [← List.nil_append (closing :: back)] at begun
      exact .inl (prefix_closed plain begun).isInfix
    · exact .inr later
  | cons a front ih =>
    rw [List.cons_append, List.infix_cons_iff, ← List.cons_append] at stands
    rcases stands with begun | later
    · exact .inl (prefix_closed plain begun).isInfix
    · exact (ih later).imp_left List.infix_cons

variable [DecidableEq α] {block whole : List α}

theorem afterBlock?_eq_none : afterBlock? block whole = none ↔ ¬ block <+: whole := by
  rw [Option.eq_none_iff_forall_ne_some]
  exact ⟨fun never ⟨rest, written⟩ => never rest (afterBlock?_eq_some.mpr written.symm),
    fun apart rest begun => apart ⟨rest, (afterBlock?_eq_some.mp begun).symm⟩⟩

/-- What stands nowhere is replaced nowhere. -/
theorem replaceAll_absent (label : List α) (absent : ¬ block <:+: whole) :
    replaceAll block label whole = whole := by
  induction whole with
  | nil => exact replaceAll_nil block label
  | cons w whole ih =>
    obtain ⟨apart, later⟩ := not_or.mp (mt List.infix_cons_iff.mpr absent)
    rw [replaceAll_cons label (afterBlock?_eq_none.mpr apart), ih later]

/-- What begins a text after a replacement, and is not opened like the label, began it before. -/
theorem prefix_replaced (opened : label.head? = some opening) (plain : opening ∉ piece)
    (filled : block ≠ []) (begun : piece <+: replaceAll block label whole) : piece <+: whole := by
  induction piece generalizing whole with
  | nil => exact List.nil_prefix
  | cons p piece ih =>
    simp only [List.mem_cons, not_or] at plain
    cases whole with
    | nil => simp [replaceAll_nil] at begun
    | cons w whole =>
      cases cut : afterBlock? block (w :: whole) with
      | none =>
        rw [replaceAll_cons label cut, List.cons_prefix_cons] at begun
        exact List.cons_prefix_cons.mpr ⟨begun.1, ih plain.2 begun.2⟩
      | some rest =>
        obtain ⟨label, rfl⟩ := List.head?_eq_some_iff.mp opened
        rw [afterBlock?_eq_some.mp cut, replaceAll_block filled, List.cons_append,
          List.cons_prefix_cons] at begun
        exact absurd begun.1.symm plain.1

/-- What stands in a text after a replacement, and has no brackets, stands in the label or stood
in the text before, and what was replaced is gone. -/
theorem infix_replaced (opened : label.head? = some opening) (closed : label.getLast? = some closing)
    (plain : opening ∉ piece ∧ closing ∉ piece) (stands : piece <:+: replaceAll block label whole) :
    piece <:+: label ∨ piece <:+: whole ∧ piece ≠ block := by
  by_cases nothing : piece = []
  · exact .inl (nothing ▸ List.nil_infix)
  by_cases filled : block = []
  · rw [replaceAll, if_pos filled] at stands
    exact .inr ⟨stands, filled ▸ nothing⟩
  induction size : whole.length using Nat.strong_induction_on generalizing whole with
  | _ count ih =>
    cases whole with
    | nil => exact absurd (by simpa [replaceAll_nil] using stands) nothing
    | cons w whole =>
      cases cut : afterBlock? block (w :: whole) with
      | none =>
        have apart := afterBlock?_eq_none.mp cut
        rw [replaceAll_cons label cut, List.infix_cons_iff, ← replaceAll_cons label cut] at stands
        rcases stands with begun | later
        · have begun := prefix_replaced opened plain.1 filled begun
          exact .inr ⟨begun.isInfix, fun same => apart (same ▸ begun)⟩
        · exact (ih whole.length (by simp [← size]) later rfl).imp_right
            (And.imp_left List.infix_cons)
      | some rest =>
        have written := afterBlock?_eq_some.mp cut
        have shorter : rest.length < count := by
          have positive := List.length_pos_of_ne_nil filled
          rw [← size, written, List.length_append]
          omega
        obtain ⟨word, rfl⟩ := List.getLast?_eq_some_iff.mp closed
        rw [written, replaceAll_block filled, List.append_assoc, List.singleton_append] at stands
        rcases infix_closed plain.2 stands with inside | behind
        · exact .inl (inside.trans (List.prefix_append word _).isInfix)
        · rw [written]
          exact (ih rest.length shorter behind rfl).imp_right
            (And.imp_left (·.trans (List.suffix_append block rest).isInfix))

section Redactions
open Sandbox

variable {redactions : List Redaction} {piece text : List Char}

/-- A label in brackets. -/
structure Bracketed (label : List Char) : Prop where
  opened : label.head? = some '<'
  closed : label.getLast? = some '>'

/-- What stands in a redacted text, and has no brackets, stands in a label or stood in the text
before, and it is none of what was looked for. -/
theorem infix_redacted (labels : ∀ redaction ∈ redactions, Bracketed redaction.label)
    (plain : '<' ∉ piece ∧ '>' ∉ piece)
    (outside : ∀ redaction ∈ redactions, ¬ piece <:+: redaction.label)
    (stands : piece <:+: Redaction.applyAll redactions text) :
    piece <:+: text ∧ ∀ redaction ∈ redactions, piece ≠ redaction.text := by
  induction redactions generalizing text with
  | nil => exact ⟨stands, by simp⟩
  | cons redaction redactions ih =>
    obtain ⟨label, labels⟩ := List.forall_mem_cons.mp labels
    obtain ⟨without, outside⟩ := List.forall_mem_cons.mp outside
    obtain ⟨between, others⟩ := ih labels outside stands
    obtain ⟨stood, other⟩ :=
      (infix_replaced label.opened label.closed plain between).resolve_left without
    exact ⟨stood, List.forall_mem_cons.mpr ⟨other, others⟩⟩

/-- A text in which nothing stands that is looked for is left as it is. -/
theorem redacted_absent (absent : ∀ redaction ∈ redactions, ¬ redaction.text <:+: text) :
    Redaction.applyAll redactions text = text := by
  induction redactions with
  | nil => rfl
  | cons redaction redactions ih =>
    obtain ⟨first, others⟩ := List.forall_mem_cons.mp absent
    have kept : Redaction.applyAll (redaction :: redactions) text =
        Redaction.applyAll redactions (replaceAll redaction.text redaction.label text) := rfl
    rw [kept, replaceAll_absent _ first, ih others]

end Redactions

section Paths

variable {sandbox : Sandbox} {path : Path} {shown : String}

/-- The paths of a sandbox that are replaced: of the work tree and of the directory for passing
files the canonical one, where there is one, and the one it was made with. -/
def shownPaths (sandbox : Sandbox) : List String :=
  (sandbox.canonical? sandbox.work).toList ++ [sandbox.work.shown] ++
    ((sandbox.canonical? sandbox.tmp).toList ++ [sandbox.tmp.shown])

/-- What `redact` replaces, and by what. -/
def allRedactions (sandbox : Sandbox) : List Sandbox.Redaction :=
  Sandbox.redactions (sandbox.canonical? sandbox.work) sandbox.work.shown
    (sandbox.canonical? sandbox.tmp) sandbox.tmp.shown

theorem redact_toList (sandbox : Sandbox) (text : String) : (sandbox.redact text).toList =
    Sandbox.Redaction.applyAll (allRedactions sandbox) text.toList :=
  String.toList_ofList

theorem texts_eq (sandbox : Sandbox) :
    (allRedactions sandbox).map Sandbox.Redaction.text = (shownPaths sandbox).map String.toList := by
  simp [allRedactions, Sandbox.redactions, Sandbox.redactionsOf, shownPaths, Function.comp_def]

/-- Each label is the one or the other. -/
theorem labels_eq {redaction : Sandbox.Redaction} (member : redaction ∈ allRedactions sandbox) :
    redaction.label = Sandbox.workLabel.toList ∨ redaction.label = Sandbox.tmpLabel.toList := by
  simp only [allRedactions, Sandbox.redactions, Sandbox.redactionsOf, List.mem_append,
    List.mem_map] at member
  rcases member with ⟨_, -, rfl⟩ | ⟨_, -, rfl⟩
  · exact .inl rfl
  · exact .inr rfl

theorem slash_shown (path : Path) : '/' ∈ path.shown.toList ↔ separator ∈ path.bytes := by
  rw [Path.shown, Bytes.shown, String.toList_ofList]
  exact mem_decodeLossy_iff (b := separator) (by decide)

/-- The path of something in a sandbox has a separator in it, since the sandbox is somewhere. -/
theorem place_separated (sandbox : Sandbox) {name : String}
    (relative : (Path.ofString name).isAbsolute = false) :
    separator ∈ (sandbox.place name).bytes := by
  rw [Sandbox.place, Path.join, relative, if_neg Bool.false_ne_true]
  split
  next ends =>
    have last : sandbox.root.bytes.getLast? = some separator := by
      simpa [sandbox.placed] using ends
    exact List.mem_append_left _ (List.mem_of_getLast? last)
  next => exact List.mem_append_right _ List.mem_cons_self

theorem canonical_slash (found : sandbox.canonical? path = some shown) : '/' ∈ shown.toList := by
  unfold Sandbox.canonical? at found
  split at found
  next reached =>
    cases found
    obtain ⟨place, rfl⟩ := canonical_place reached
    exact (slash_shown _).mpr List.mem_cons_self
  next => cases found

theorem shownPaths_slash (member : shown ∈ shownPaths sandbox) : '/' ∈ shown.toList := by
  simp only [shownPaths, List.mem_append, Option.mem_toList, List.mem_singleton] at member
  rcases member with (found | rfl) | (found | rfl)
  · exact canonical_slash found
  · exact (slash_shown _).mpr (place_separated sandbox (by decide))
  · exact canonical_slash found
  · exact (slash_shown _).mpr (place_separated sandbox (by decide))

end Paths

/-- Redacting takes the paths of a sandbox out of a text: none of them stands in what is left,
so redacting that again changes nothing, and it changes nothing where none of them stands in
the first place. The paths may overlap and stand in one another in any way, as long as they
have none of the brackets that labels are put in. -/
theorem redacted_for_good (sandbox : Sandbox)
    (plain : ∀ path ∈ shownPaths sandbox, '<' ∉ path.toList ∧ '>' ∉ path.toList) (text : String) :
    (∀ path ∈ shownPaths sandbox, ¬ path.toList <:+: (sandbox.redact text).toList) ∧
      sandbox.redact (sandbox.redact text) = sandbox.redact text ∧
      ((∀ path ∈ shownPaths sandbox, ¬ path.toList <:+: text.toList) →
        sandbox.redact text = text) := by
  have looked {redaction : Sandbox.Redaction} (member : redaction ∈ allRedactions sandbox) :
      ∃ path ∈ shownPaths sandbox, path.toList = redaction.text := by
    rw [← List.mem_map, ← texts_eq]
    exact List.mem_map_of_mem member
  have labels : ∀ redaction ∈ allRedactions sandbox, Bracketed redaction.label := by
    intro redaction member
    rcases labels_eq member with label | label <;> rw [label] <;> exact ⟨rfl, rfl⟩
  have gone : ∀ path ∈ shownPaths sandbox, ¬ path.toList <:+: (sandbox.redact text).toList := by
    intro path member stands
    have outside : ∀ redaction ∈ allRedactions sandbox, ¬ path.toList <:+: redaction.label := by
      intro redaction among inside
      have slash := inside.subset (shownPaths_slash member)
      rcases labels_eq among with label | label <;> rw [label] at slash <;> revert slash <;> decide
    rw [redact_toList] at stands
    obtain ⟨-, others⟩ := infix_redacted labels (plain path member) outside stands
    have found : path.toList ∈ (allRedactions sandbox).map Sandbox.Redaction.text :=
      texts_eq sandbox ▸ List.mem_map_of_mem member
    obtain ⟨redaction, among, same⟩ := List.mem_map.mp found
    exact others redaction among same.symm
  have kept (text : String) (absent : ∀ path ∈ shownPaths sandbox, ¬ path.toList <:+: text.toList) :
      sandbox.redact text = text := by
    rw [← String.toList_inj, redact_toList]
    refine redacted_absent fun redaction member => ?_
    obtain ⟨path, among, same⟩ := looked member
    exact same ▸ absent path among
  exact ⟨gone, kept _ gone, kept text⟩

/-- A sandbox whose directory for passing files is a link into its work tree. -/
def yard : Sandbox where
  root := Path.ofString "/yard"
  disk := {
    top := .cons ⟨Bytes.ofString "yard", by decide⟩ (.directory programMode
      (.cons ⟨Bytes.ofString "tmp", by decide⟩ (.link (Path.ofString "work/tmp"))
      (.cons ⟨Bytes.ofString "work", by decide⟩ (.directory programMode
        (.cons ⟨Bytes.ofString "tmp", by decide⟩ (.directory programMode .nil) .nil))
      .nil))) .nil
    files := #[]
    clock := 0
    tidy := rfl }
  placed := by decide

/-- A path that is taken out of the middle of the letters of another one does not let these come
together, and a path that begins with another one is not looked for in what is left of it. -/
theorem yard_redacted :
    let text := "/yard/wor/yard/workk /yard/tmp/yard/work/tmp"
    shownPaths yard = ["/yard/work", "/yard/work", "/yard/work/tmp", "/yard/tmp"] ∧
      (∀ path ∈ shownPaths yard, '<' ∉ path.toList ∧ '>' ∉ path.toList) ∧
      yard.redact text = "/yard/wor<root>k <tmp><root>/tmp" ∧
      (∀ path ∈ shownPaths yard, ¬ path.toList <:+: (yard.redact text).toList) ∧
      yard.redact (yard.redact text) = yard.redact text ∧
      yard.redact "/yard/wor k" = "/yard/wor k" := by
  intro text
  have paths : shownPaths yard = ["/yard/work", "/yard/work", "/yard/work/tmp", "/yard/tmp"] := by
    decide +kernel
  have plain : ∀ path ∈ shownPaths yard, '<' ∉ path.toList ∧ '>' ∉ path.toList := by
    rw [paths]
    decide
  have absent : ∀ path ∈ shownPaths yard, ¬ path.toList <:+: "/yard/wor k".toList := by
    rw [paths]
    decide +kernel
  obtain ⟨gone, again, -⟩ := redacted_for_good yard plain text
  exact ⟨paths, plain, by decide +kernel, gone, again,
    (redacted_for_good yard plain "/yard/wor k").2.2 absent⟩

end ChangelogSql.RedactedText
