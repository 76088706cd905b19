import ChangelogSql.Manifest
import ChangelogSql.Path.FileName
import Mathlib.Data.List.Induction

/-! What cutting and joining does to the components of a path. Every statement
is about the operations on the written text; the silent segments they pass over
are the only difference between a path's text and its components. -/
namespace ChangelogSql.PathComponents
open ChangelogSql.Path Files

variable {path other parent : Path} {written : Parts} {anchor : Anchor}
variable {segment name : Bytes} {segments front rest : List Bytes}

section Pieces
variable {α : Type} [DecidableEq α] (sep : α)

theorem splitAt_of_not_mem (whole : List α) (free : sep ∉ whole) :
    Text.splitAt sep whole = [whole] := by
  induction whole with
  | nil => rfl
  | cons a rest ih =>
    simp only [List.mem_cons, not_or] at free
    simp [Text.splitAt, ih free.2, Ne.symm free.1]

/-- A separator ends one piece and begins the next, whatever stands around it. -/
theorem splitAt_append_cons (front back : List α) :
    Text.splitAt sep (front ++ sep :: back) = Text.splitAt sep front ++ Text.splitAt sep back := by
  induction front with
  | nil => simp [Text.splitAt]
  | cons a rest ih =>
    by_cases same : a = sep
    · simp [Text.splitAt, same, ih]
    · cases pieces : Text.splitAt sep rest with
      | nil => exact absurd pieces (Text.splitAt_ne_nil _ _)
      | cons piece more => simp [Text.splitAt, same, ih, pieces]

theorem not_mem_of_mem_splitAt (whole : List α) :
    ∀ piece ∈ Text.splitAt sep whole, sep ∉ piece := by
  induction whole with
  | nil => simp [Text.splitAt]
  | cons a rest ih =>
    by_cases same : a = sep
    · simpa [Text.splitAt, same] using ih
    · cases pieces : Text.splitAt sep rest with
      | nil => exact absurd pieces (Text.splitAt_ne_nil _ _)
      | cons piece more =>
        rw [pieces] at ih
        simp only [List.mem_cons, forall_eq_or_imp] at ih
        simp only [Text.splitAt, same, ↓reduceIte, pieces, List.mem_cons, forall_eq_or_imp, not_or]
        exact ⟨⟨Ne.symm same, ih.1⟩, ih.2⟩

/-- Pieces without separators come back from their joined text. -/
theorem splitAt_joinWith (pieces : List (List α)) (filled : pieces ≠ [])
    (free : ∀ piece ∈ pieces, sep ∉ piece) :
    Text.splitAt sep (Text.joinWith sep pieces) = pieces := by
  induction pieces with
  | nil => exact absurd rfl filled
  | cons piece more ih =>
    cases more with
    | nil => exact splitAt_of_not_mem sep piece (free piece (by simp))
    | cons next more =>
      rw [Text.joinWith, splitAt_append_cons, splitAt_of_not_mem sep piece (free piece (by simp)),
        ih (by simp) (fun other member => free other (List.mem_cons_of_mem _ member))]
      rfl

/-- A text that goes on in its last piece has the other pieces in common with the text it
goes on from. -/
theorem splitAt_continued {front back last first : List α} {pieces more : List (List α)}
    (cut : Text.splitAt sep front = pieces ++ [last])
    (continued : Text.splitAt sep back = first :: more) :
    Text.splitAt sep (front ++ back) = pieces ++ (last ++ first) :: more := by
  induction front generalizing pieces last with
  | nil =>
    cases pieces with
    | nil =>
      cases cut
      exact continued
    | cons piece pieces => simp [Text.splitAt] at cut
  | cons a front ih =>
    by_cases same : a = sep
    · simp only [Text.splitAt, same, ↓reduceIte, List.cons_append] at cut ⊢
      cases pieces with
      | nil => exact absurd (List.cons.inj cut).2 (Text.splitAt_ne_nil _ _)
      | cons piece pieces =>
        obtain ⟨rfl, further⟩ := List.cons.inj cut
        rw [ih further, List.cons_append]
    · obtain ⟨piece, others, inner⟩ := List.exists_cons_of_ne_nil (Text.splitAt_ne_nil sep front)
      simp only [Text.splitAt, same, ↓reduceIte, inner, List.cons_append] at cut ⊢
      cases pieces with
      | nil =>
        cases cut
        have alone : Text.splitAt sep front = [] ++ [piece] := inner
        rw [ih alone]
        rfl
      | cons begun pieces =>
        obtain ⟨rfl, further⟩ := List.cons.inj cut
        have shorter : Text.splitAt sep front = (piece :: pieces) ++ [last] := by rw [inner, further]; rfl
        rw [ih shorter]
        rfl

end Pieces

theorem joinWith_concat {α : Type} (sep : α) {pieces : List (List α)} (piece : List α)
    (filled : pieces ≠ []) :
    Text.joinWith sep (pieces ++ [piece]) = Text.joinWith sep pieces ++ sep :: piece := by
  induction pieces with
  | nil => exact absurd rfl filled
  | cons first pieces ih =>
    cases pieces with
    | nil => rfl
    | cons next pieces => simpa [Text.joinWith] using ih (by simp)

/-- What the first of a path's pieces says about where the path starts. -/
def anchorOf : List Bytes → Anchor
  | [] :: _ :: _ => .top
  | [0x2E] :: _ => .here
  | _ => .none

@[simp] theorem silent_nil : silent [] = true := rfl

@[simp] theorem silent_dot : silent [0x2E] = true := rfl

theorem component_of_silent (quiet : silent segment = true) : component? segment = none := by
  simp [component?, quiet]

theorem component_of_speaking (speaks : silent segment = false) :
    (component? segment).isSome = true := by
  simp only [component?, speaks, Bool.false_eq_true, ↓reduceIte]
  split <;> rfl

/-- Only one segment stands for a component. -/
theorem component?_inj {segment segment' : Bytes} {component : Component}
    (named : component? segment = some component) (named' : component? segment' = some component) :
    segment = segment' := by
  unfold component? at named named'
  split at named
  · cases named
  split at named'
  · cases named'
  split at named <;> split at named'
  next up up' => rw [up, up']
  next up other =>
    cases named
    cases named'
  next other up =>
    cases named
    cases named'
  next other other' =>
    cases named
    cases named'
    rfl

theorem anchorOf_speaking {segment : Bytes} (speaks : silent segment = false) (segments : List Bytes) :
    anchorOf (segment :: segments) = .none := by
  unfold anchorOf
  split
  next cut =>
    cases cut
    cases speaks
  next cut =>
    cases cut
    cases speaks
  next => rfl

/-- A path's components are those of all its pieces behind its anchor; the piece
that spells the anchor is silent itself. -/
theorem components_eq (path : Path) :
    path.components = (anchorOf (Text.splitAt separator path.bytes)).components ++
      (Text.splitAt separator path.bytes).filterMap component? := by
  have first : component? [] = none := rfl
  have dot : component? [0x2E] = none := rfl
  unfold components parts
  split
  · rename_i cut
    simp [Parts.components, anchorOf, cut, first]
  · rename_i cut
    simp [Parts.components, anchorOf, cut, dot]
  · rename_i cut
    simp [Parts.components, anchorOf, cut, first]
  · rename_i notTop notHere notEmpty
    have nowhere : anchorOf (Text.splitAt separator path.bytes) = .none := by
      unfold anchorOf
      split
      · rename_i segments cut
        exact absurd cut (notTop _ _)
      · rename_i segments cut
        exact absurd cut (notHere _)
      · rfl
    simp [Parts.components, nowhere]

theorem isName_iff : isName name = true ↔
    name ≠ [] ∧ name ≠ [0x2E] ∧ name ≠ [0x2E, 0x2E] ∧ separator ∉ name ∧ 0 ∉ name := by
  simp [isName, and_assoc]

/-- The bytes of a proper name are one piece that says something other than `..`. -/
theorem name_speaks (proper : isName name = true) :
    name ≠ [] ∧ separator ∉ name ∧ silent name = false ∧ component? name = some (.normal name) := by
  obtain ⟨filled, notDot, notUp, free, -⟩ := isName_iff.mp proper
  have speaks : silent name = false := by simp [silent, filled, notDot]
  exact ⟨filled, free, speaks, by simp [component?, speaks, notUp]⟩

/-- A piece list that begins like another one starts from the same place, as
long as there was a first piece to go on from. -/
theorem anchorOf_append (pieces more : List Bytes) (first : pieces ≠ [])
    (notEmpty : pieces ≠ [[]]) : anchorOf (pieces ++ more) = anchorOf pieces := by
  match pieces with
  | [] => exact absurd rfl first
  | [[]] => exact absurd rfl notEmpty
  | [] :: _ :: _ => rfl
  | (b :: rest) :: tail =>
    by_cases here : b :: rest = [0x2E]
    · rw [here]; rfl
    · have speaks : silent (b :: rest) = false := by simp [silent, here]
      rw [List.cons_append, anchorOf_speaking speaks, anchorOf_speaking speaks]

/-- The pieces in front of a name that is joined to a path: all of them but a
last empty one, which the name takes the place of. -/
def piecesBefore (path : Path) : List Bytes :=
  if path.bytes = [] then []
  else if path.bytes.getLast? = some separator then (Text.splitAt separator path.bytes).dropLast
  else Text.splitAt separator path.bytes

theorem splitAt_of_trailing (path : Path) (trailing : path.bytes.getLast? = some separator) :
    ∃ front, path.bytes = front ++ [separator] ∧
      Text.splitAt separator path.bytes = Text.splitAt separator front ++ [[]] := by
  obtain ⟨front, written⟩ := List.getLast?_eq_some_iff.mp trailing
  exact ⟨front, written, by rw [written, splitAt_append_cons]; rfl⟩

/-- What says something and holds no separator does not start at the top. -/
theorem relative_of_speaking (speaks : silent name = false) (free : separator ∉ name) :
    isAbsolute ⟨name⟩ = false := by
  cases name with
  | nil => simp at speaks
  | cons b rest =>
    simp only [List.mem_cons, not_or] at free
    simpa [isAbsolute] using Ne.symm free.1

/-- What is joined is written behind the same text, whatever it is. -/
theorem join_relative (path : Path) (relative : isAbsolute ⟨name⟩ = false) :
    (path.join ⟨name⟩).bytes = (path.join ⟨[]⟩).bytes ++ name := by
  have blank : isAbsolute ⟨[]⟩ = false := rfl
  simp only [join, relative, blank, Bool.false_eq_true, ↓reduceIte]
  split <;> simp

/-- What is joined has its pieces behind those in front of it, and these stay as they were. -/
theorem splitAt_join_relative (path : Path) {rest : Path} (relative : rest.isAbsolute = false) :
    Text.splitAt separator (path.join rest).bytes =
      piecesBefore path ++ Text.splitAt separator rest.bytes := by
  unfold join piecesBefore
  by_cases empty : path.bytes = []
  · simp [relative, empty]
  · by_cases trailing : path.bytes.getLast? = some separator
    · obtain ⟨front, written, pieces⟩ := splitAt_of_trailing path trailing
      have joined : path.bytes ++ rest.bytes = front ++ separator :: rest.bytes := by simp [written]
      simp only [relative, empty, trailing, Bool.false_eq_true, ↓reduceIte, decide_true,
        Bool.or_true, pieces, List.dropLast_concat, joined, splitAt_append_cons]
    · simp [relative, empty, trailing, splitAt_append_cons]

theorem splitAt_join (path : Path) (speaks : silent name = false) (free : separator ∉ name) :
    Text.splitAt separator (path.join ⟨name⟩).bytes = piecesBefore path ++ [name] := by
  rw [splitAt_join_relative path (relative_of_speaking speaks free),
    splitAt_of_not_mem separator name free]

/-- What is dropped in front of a joined name says nothing. -/
theorem piecesBefore_components (path : Path) :
    (piecesBefore path).filterMap component? =
      (Text.splitAt separator path.bytes).filterMap component? := by
  have first : component? [] = none := rfl
  unfold piecesBefore
  split
  · rename_i empty
    simp [empty, Text.splitAt, first]
  · split
    · rename_i trailing
      obtain ⟨front, written, pieces⟩ := splitAt_of_trailing path trailing
      simp [pieces, first]
    · rfl

/-- A joined piece does not change where a path starts from. -/
theorem anchorOf_join (path : Path) (speaks : silent name = false) :
    anchorOf (piecesBefore path ++ [name]) = anchorOf (Text.splitAt separator path.bytes) := by
  unfold piecesBefore
  by_cases empty : path.bytes = []
  · simp only [empty, ↓reduceIte, List.nil_append, Text.splitAt]
    rw [anchorOf_speaking speaks]
    rfl
  · by_cases trailing : path.bytes.getLast? = some separator
    · obtain ⟨front, written, pieces⟩ := splitAt_of_trailing path trailing
      simp only [empty, trailing, ↓reduceIte, pieces, List.dropLast_concat]
      have some := Text.splitAt_ne_nil separator front
      cases front with
      | nil => simp [Text.splitAt, anchorOf]
      | cons b rest =>
        have notEmpty : Text.splitAt separator (b :: rest) ≠ [[]] := by
          intro same
          have joined := Text.joinWith_splitAt separator (b :: rest)
          rw [same] at joined
          simp [Text.joinWith] at joined
        rw [anchorOf_append _ _ some notEmpty, anchorOf_append _ _ some notEmpty]
    · simp only [empty, trailing, ↓reduceIte]
      have notEmpty : Text.splitAt separator path.bytes ≠ [[]] := by
        intro same
        have joined := Text.joinWith_splitAt separator path.bytes
        rw [same] at joined
        exact empty joined.symm
      exact anchorOf_append _ _ (Text.splitAt_ne_nil _ _) notEmpty

/-- The parts in front of a piece that is joined to a path. -/
def partsBefore (path : Path) : Parts :=
  match piecesBefore path with
  | [] :: segments => ⟨.top, segments⟩
  | [0x2E] :: segments => ⟨.here, segments⟩
  | segments => ⟨.none, segments⟩

/-- A joined piece is the last segment, and in front of it is the same for all pieces. -/
theorem parts_join (path : Path) (speaks : silent name = false) (free : separator ∉ name) :
    (path.join ⟨name⟩).parts =
      ⟨(partsBefore path).anchor, (partsBefore path).segments ++ [name]⟩ := by
  obtain ⟨filled, notDot⟩ : name ≠ [] ∧ name ≠ [0x2E] := by simpa [silent] using speaks
  rw [parts, splitAt_join path speaks free, partsBefore]
  cases piecesBefore path with
  | nil => split <;> simp_all
  | cons first pieces =>
    obtain ⟨second, more, rest⟩ := List.exists_cons_of_ne_nil (List.concat_ne_nil name pieces)
    split <;> split <;> simp_all

/-- Joining a piece to any spelling of a path adds the component it stands for. -/
theorem components_join_piece {component : Component} (path : Path) (free : separator ∉ name)
    (spelled : component? name = some component) :
    (path.join ⟨name⟩).components = path.components ++ [component] := by
  have speaks : silent name = false := by
    by_contra quiet
    rw [component_of_silent (by simpa using quiet)] at spelled
    cases spelled
  rw [components_eq, splitAt_join path speaks free, anchorOf_join path speaks, List.filterMap_append,
    piecesBefore_components, components_eq path, List.append_assoc]
  simp [spelled]

theorem components_join (path : Path) (name : Bytes) (proper : isName name = true) :
    (path.join ⟨name⟩).components = path.components ++ [.normal name] := by
  obtain ⟨-, free, -, normal⟩ := name_speaks proper
  exact components_join_piece path free normal

/-- The parts in front of what is joined to a path spell the path. -/
theorem partsBefore_components (path : Path) : (partsBefore path).components = path.components := by
  have proper : isName [0x61] = true := by decide
  obtain ⟨-, free, speaks, spelled⟩ := name_speaks proper
  have whole := components_join path [0x61] proper
  rw [components, parts_join path speaks free, Parts.components, List.filterMap_append,
    ← List.append_assoc] at whole
  have single : [[0x61]].filterMap component? = [.normal [0x61]] := List.filterMap_cons_some spelled
  rw [single] at whole
  exact List.append_cancel_right whole

theorem piecesBefore_ne_nil (filled : path.bytes ≠ []) : piecesBefore path ≠ [] := by
  rw [piecesBefore, if_neg filled]
  split
  next trailing =>
    obtain ⟨front, -, pieces⟩ := splitAt_of_trailing path trailing
    rw [pieces, List.dropLast_concat]
    exact Text.splitAt_ne_nil separator front
  next => exact Text.splitAt_ne_nil separator path.bytes

/-- Behind a path that is not empty, all pieces of what is joined are segments. -/
theorem parts_join_relative {rest : Path} (filled : path.bytes ≠ [])
    (relative : rest.isAbsolute = false) :
    (path.join rest).parts = ⟨(partsBefore path).anchor,
      (partsBefore path).segments ++ Text.splitAt separator rest.bytes⟩ := by
  rw [parts, splitAt_join_relative path relative, partsBefore]
  obtain ⟨first, pieces, before⟩ := List.exists_cons_of_ne_nil (piecesBefore_ne_nil filled)
  obtain ⟨piece, more, behind⟩ :=
    List.exists_cons_of_ne_nil (Text.splitAt_ne_nil separator rest.bytes)
  obtain ⟨second, others, further⟩ :=
    List.exists_cons_of_ne_nil (show pieces ++ piece :: more ≠ [] by simp)
  rw [before, behind, List.cons_append]
  split <;> split <;> simp_all

theorem fileName_join (path : Path) (proper : isName name = true) :
    (path.join ⟨name⟩).fileName? = some name := by
  rw [fileName?, components_join path name proper, List.getLast?_concat]

/-- Parts as cutting leaves them: no segment holds a separator, and where there is
no anchor the first segment says something. -/
structure Sound (parts : Parts) : Prop where
  free : ∀ segment ∈ parts.segments, separator ∉ segment
  begun : parts.anchor = .none → ∀ segment ∈ parts.segments.head?, silent segment = false

theorem parts_sound (path : Path) : Sound path.parts := by
  have free := not_mem_of_mem_splitAt separator path.bytes
  unfold parts
  split
  · rename_i cut
    rw [cut] at free
    exact ⟨fun segment member => free segment (List.mem_cons_of_mem _ member), by simp⟩
  · rename_i cut
    rw [cut] at free
    exact ⟨fun segment member => free segment (List.mem_cons_of_mem _ member), by simp⟩
  · exact ⟨by simp, by simp⟩
  · rename_i notTop notHere notEmpty
    refine ⟨free, fun _ segment member => ?_⟩
    cases cut : Text.splitAt separator path.bytes with
    | nil => exact absurd cut (Text.splitAt_ne_nil _ _)
    | cons head rest =>
      simp only [cut, List.head?_cons, Option.mem_some_iff] at member
      subst member
      by_cases empty : head = []
      · subst empty
        cases rest with
        | nil => exact absurd cut notEmpty
        | cons next rest => exact absurd cut (notTop next rest)
      · by_cases dot : head = [0x2E]
        · subst dot
          exact absurd cut (notHere rest)
        · simp [silent, empty, dot]

/-- Sound parts that are written down denote what they did. -/
theorem components_ofParts (sound : Sound written) :
    (ofParts written).components = written.components := by
  obtain ⟨anchor, segments⟩ := written
  have empty : component? [] = none := rfl
  have dot : component? [0x2E] = none := rfl
  rw [components_eq]
  cases anchor with
  | top =>
    have cut : Text.splitAt separator (ofParts ⟨.top, segments⟩).bytes =
        [] :: Text.splitAt separator (Text.joinWith separator segments) := by
      simp [ofParts, Text.splitAt]
    cases segments with
    | nil => rw [cut]; simp [Text.joinWith, Text.splitAt, anchorOf, Parts.components, empty]
    | cons segment more =>
      rw [splitAt_joinWith separator _ (by simp) sound.free] at cut
      rw [cut]
      simp [anchorOf, Parts.components, empty]
  | here =>
    have free : ∀ piece ∈ [0x2E] :: segments, separator ∉ piece := by
      intro piece member
      rcases List.mem_cons.mp member with rfl | member
      · decide
      · exact sound.free piece member
    have cut : Text.splitAt separator (ofParts ⟨.here, segments⟩).bytes = [0x2E] :: segments :=
      splitAt_joinWith separator _ (by simp) free
    rw [cut]
    simp [anchorOf, Parts.components, dot]
  | none =>
    cases segments with
    | nil => simp [ofParts, Text.joinWith, Text.splitAt, anchorOf, Parts.components, empty]
    | cons segment more =>
      have cut : Text.splitAt separator (ofParts ⟨.none, segment :: more⟩).bytes = segment :: more :=
        splitAt_joinWith separator _ (by simp) sound.free
      have speaks := sound.begun rfl segment (by simp)
      rw [cut, anchorOf_speaking speaks]
      rfl

/-- Parts that were cut are the path again when they are written down. -/
theorem ofParts_parts (path : Path) : ofParts path.parts = path := by
  have whole := Text.joinWith_splitAt separator path.bytes
  have written {pieces : List Bytes} (cut : Text.splitAt separator path.bytes = pieces) :
      (⟨Text.joinWith separator pieces⟩ : Path) = path := by
    rw [← cut, whole]
  unfold parts
  split
  next cut => exact written cut
  next cut => exact written cut
  next cut => simpa [ofParts, Text.joinWith] using written cut
  next => exact written rfl

theorem trimRight_silent (front : List Bytes) (quiet : silent segment = true) :
    trimRight (front ++ [segment]) = trimRight front := by
  simp [trimRight, quiet]

theorem trimRight_speaking (front : List Bytes) (speaks : silent segment = false) :
    trimRight (front ++ [segment]) = front ++ [segment] := by
  simp [trimRight, speaks]

theorem trimRight_components (segments : List Bytes) :
    (trimRight segments).filterMap component? = segments.filterMap component? := by
  induction segments using List.reverseRecOn with
  | nil => rfl
  | append_singleton front last ih =>
    cases quiet : silent last with
    | true => simp [trimRight_silent front quiet, ih, component_of_silent quiet]
    | false => rw [trimRight_speaking front quiet]

/-- Trimming keeps a front part of the segments, which ends in one that speaks. -/
theorem trimRight_spec (segments : List Bytes) :
    ∃ rest, segments = trimRight segments ++ rest ∧
      ∀ last ∈ (trimRight segments).getLast?, silent last = false := by
  induction segments using List.reverseRecOn with
  | nil => exact ⟨[], rfl, by simp [trimRight]⟩
  | append_singleton front last ih =>
    cases quiet : silent last with
    | true =>
      obtain ⟨rest, cut, speaks⟩ := ih
      rw [trimRight_silent front quiet]
      exact ⟨rest ++ [last], by rw [← List.append_assoc, ← cut], speaks⟩
    | false =>
      rw [trimRight_speaking front quiet]
      exact ⟨[], by simp, by simpa using quiet⟩

/-- Only the empty text denotes nothing. -/
theorem components_eq_nil_iff : path.components = [] ↔ path.bytes = [] := by
  constructor
  · intro nothing
    cases cut : path.parts with | mk anchor segments =>
    have sound := cut ▸ parts_sound path
    rw [components, cut, Parts.components, List.append_eq_nil_iff] at nothing
    obtain ⟨nowhere, silent⟩ := nothing
    have unanchored : anchor = .none := by
      cases anchor <;> simp_all [Anchor.components]
    cases segments with
    | nil =>
      rw [← ofParts_parts path, cut, unanchored]
      rfl
    | cons segment segments =>
      have speaks := component_of_speaking (sound.begun unanchored segment (by simp))
      simp_all
  · intro empty
    cases path
    cases empty
    rfl

/-- Shorter segments of sound parts are sound. -/
theorem Sound.left (sound : Sound ⟨anchor, front ++ rest⟩) : Sound ⟨anchor, front⟩ := by
  refine ⟨fun segment member => sound.free segment (List.mem_append_left _ member), ?_⟩
  intro nowhere segment member
  refine sound.begun nowhere segment ?_
  cases front with
  | nil => simp at member
  | cons head more => simpa using member

theorem Sound.trimRight (sound : Sound ⟨anchor, segments⟩) :
    Sound ⟨anchor, Path.trimRight segments⟩ := by
  obtain ⟨rest, cut, -⟩ := trimRight_spec segments
  rw [cut] at sound
  exact sound.left

/-- A parent is written by taking the last component away. -/
theorem parent_components (above : path.parent? = some parent) :
    parent.components = path.components.dropLast := by
  cases cut : path.parts with | mk anchor segments =>
  have sound : Sound ⟨anchor, trimRight segments⟩ := (cut ▸ parts_sound path).trimRight
  have same := trimRight_components segments
  obtain ⟨_, -, speaks⟩ := trimRight_spec segments
  simp only [parent?, cut] at above
  simp only [components, cut, Parts.components, ← same]
  split at above
  · rename_i trim
    rw [trim]
    cases anchor with
    | top => cases above
    | none => cases above
    | here => cases above; rfl
  · rename_i segment more trim
    obtain ⟨front, last, shape⟩ : ∃ front last, segment :: more = front ++ [last] :=
      ⟨_, _, (List.dropLast_concat_getLast (by simp)).symm⟩
    rw [trim, shape] at sound speaks
    rw [shape, List.dropLast_concat] at above
    cases above
    obtain ⟨component, named⟩ := Option.isSome_iff_exists.mp
      (component_of_speaking (speaks last (by simp)))
    have written := components_ofParts sound.left.trimRight
    simp only [components, Parts.components, trimRight_components] at written
    rw [written, trim, shape]
    simp [named, ← List.append_assoc]

/-- Whatever piece is joined to a path, the parent is written the same. -/
theorem parent_join (path : Path) (speaks : silent name = false) (free : separator ∉ name) :
    (path.join ⟨name⟩).parent? =
      some (ofParts ⟨(partsBefore path).anchor, trimRight (partsBefore path).segments⟩) := by
  rw [parent?, parts_join path speaks free]
  simp only [trimRight_speaking _ speaks]
  split
  next empty => simp at empty
  next segment segments cut => rw [← cut, List.dropLast_concat]

/-- Only the top and the empty path have no parent. -/
theorem parent_eq_none_iff :
    path.parent? = none ↔ path.components = [] ∨ path.components = [.top] := by
  cases cut : path.parts with | mk anchor segments =>
  have same := trimRight_components segments
  obtain ⟨_, -, speaks⟩ := trimRight_spec segments
  simp only [parent?, cut, components, Parts.components, ← same]
  split
  · rename_i trim
    rw [trim]
    cases anchor <;> simp [Anchor.components]
  · rename_i segment more trim
    obtain ⟨front, last, shape⟩ : ∃ front last, segment :: more = front ++ [last] :=
      ⟨_, _, (List.dropLast_concat_getLast (by simp)).symm⟩
    rw [trim, shape] at speaks
    obtain ⟨component, named⟩ := Option.isSome_iff_exists.mp
      (component_of_speaking (speaks last (by simp)))
    have notTop : component ≠ .top := by
      rintro rfl
      unfold component? at named
      split at named
      · cases named
      · split at named <;> cases named
    simp only [trim, shape, List.filterMap_append, List.filterMap_cons, named, List.filterMap_nil,
      ← List.append_assoc, reduceCtorEq, false_iff, not_or]
    refine ⟨by simp, fun single => ?_⟩
    have ending := congrArg List.getLast? single
    simp only [List.getLast?_append, List.getLast?_singleton, Option.some_or,
      Option.some.injEq] at ending
    exact notTop ending

/-- Two spellings of one path have parents that are spellings of one path. -/
theorem parent_sameAs (same : path.sameAs other = true) (above : path.parent? = some parent) :
    ∃ parent', other.parent? = some parent' ∧ parent.sameAs parent' = true := by
  have equal : path.components = other.components := by simpa [sameAs] using same
  cases beyond : other.parent? with
  | none =>
    rw [parent_eq_none_iff, ← equal, ← parent_eq_none_iff, above] at beyond
    cases beyond
  | some parent' =>
    refine ⟨parent', rfl, ?_⟩
    simp [sameAs, parent_components above, parent_components beyond, equal]

end ChangelogSql.PathComponents
