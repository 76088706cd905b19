import ChangelogSql.Text.Search
import ChangelogSql.Text.Utf8
import Mathlib.Data.List.Infix

/-! Decoding never fails, and it neither hides a block of plain ASCII bytes nor
makes one up: bytes beyond ASCII are shown, in groups, as characters beyond
ASCII. A search for ASCII text in decoded bytes is a search in the bytes. -/
namespace ChangelogSql.LossyText
open Text Text.Utf8

/-- The character of an ASCII byte. -/
def asciiChar (b : UInt8) : Char :=
  Char.ofNat b.toNat

/-- Characters that show bytes: one for each ASCII byte, and one beyond ASCII for
each group of bytes that are all beyond ASCII. -/
inductive Aligned : Bytes → List Char → Prop
  | nil : Aligned [] []
  | ascii (plain : b < 0x80) (more : Aligned bytes chars) :
      Aligned (b :: bytes) (asciiChar b :: chars)
  | beyond (filled : group ≠ []) (high : ∀ b ∈ group, 0x80 ≤ b) (far : 0x80 ≤ c.toNat)
      (more : Aligned bytes chars) : Aligned (group ++ bytes) (c :: chars)

/-- However a sequence that has begun goes on, it ends in a character beyond ASCII. -/
def EndsBeyond (code : Nat) (low high : UInt8) : Nat → Prop
  | 0 => ∀ b, low ≤ b → b ≤ high → 0x80 ≤ (Char.ofNat (code * 64 + (b.toNat - 0x80))).toNat
  | after + 1 => ∀ b, low ≤ b → b ≤ high → EndsBeyond (code * 64 + (b.toNat - 0x80)) 0x80 0xBF after

/-- A machine that has taken only bytes beyond ASCII and can show them only as a
character beyond ASCII. -/
structure Sane (pending : Pending) : Prop where
  filled : pending.taken ≠ []
  taken : ∀ b ∈ pending.taken, 0x80 ≤ b
  low : 0x80 ≤ pending.low
  ends : EndsBeyond pending.code pending.low pending.high pending.after

variable {α : Type} [DecidableEq α] {block whole bytes : Bytes} {chars : List Char}

/-- A text occurs where it stands as a block. -/
theorem occursIn_iff {block whole : List α} : occursIn block whole = true ↔ block <:+: whole := by
  have begins (whole : List α) : (afterBlock? block whole).isSome = true ↔ block <+: whole := by
    rw [Option.isSome_iff_exists]
    exact exists_congr fun rest => afterBlock?_eq_some.trans eq_comm
  induction whole with
  | nil => exact (begins []).trans (by simp)
  | cons w whole ih =>
    have step : occursIn block (w :: whole) =
        ((afterBlock? block (w :: whole)).isSome || occursIn block whole) := by
      rw [occursIn, occursIn, afterFirst?]
      cases afterBlock? block (w :: whole) <;> rfl
    rw [List.infix_cons_iff, step, Bool.or_eq_true, begins]
    exact or_congr_right ih

theorem ofNat_toNat {code : Nat} (valid : code.isValidChar) : (Char.ofNat code).toNat = code := by
  rw [Char.ofNat, dif_pos valid]
  rfl

private theorem char_beyond (code : Nat) (high : 0x80 ≤ code)
    (scalar : code < 0xD800 ∨ 0xDFFF < code ∧ code < 0x110000) :
    0x80 ≤ (Char.ofNat code).toNat := by
  rwa [ofNat_toNat scalar]

theorem toNat_le {a b : UInt8} : a ≤ b ↔ a.toNat ≤ b.toNat := UInt8.le_iff_toNat_le

theorem toNat_lt {a b : UInt8} : a < b ↔ a.toNat < b.toNat := UInt8.lt_iff_toNat_lt

/-- The last byte to come completes a scalar value beyond ASCII, as long as the
bits before it stay clear of the surrogates and of what lies above U+10FFFF. -/
private theorem ends_next (high : 2 ≤ code) (scalar : code < 0x360 ∨ 0x380 ≤ code ∧ code < 0x4400) :
    EndsBeyond code 0x80 0xBF 0 := by
  intro b low up
  rw [toNat_le] at low up
  simp only [UInt8.reduceToNat] at low up
  exact char_beyond _ (by omega) (by omega)

/-- A bound that one first byte tightens, in numbers. -/
theorem toNat_bound (b tight near far : UInt8) :
    (if b = tight then near else far).toNat =
      if b.toNat = tight.toNat then near.toNat else far.toNat := by
  simp only [UInt8.toNat_inj]
  split <;> rfl

/-- A first byte that begins a sequence leaves the machine sane. -/
theorem first_sane (b : UInt8) (begun : (first b).1 = some pending) :
    Sane pending ∧ pending.taken = [b] ∧ (first b).2 = [] := by
  unfold first at begun ⊢
  split at begun
  next => cases begun
  next plain =>
  split at begun
  next => cases begun
  next lone =>
  have high : ∀ taken ∈ [b], 0x80 ≤ taken := by
    simpa [toNat_le, toNat_lt] using plain
  simp only [plain, lone, ↓reduceIte]
  simp only [toNat_lt, UInt8.reduceToNat] at plain lone
  split at begun
  next two =>
    simp only [two, ↓reduceIte, and_true]
    simp only [toNat_lt, UInt8.reduceToNat] at two
    cases begun
    exact ⟨⟨by simp, high, UInt8.le_refl 0x80, ends_next (by dsimp only; omega) (by dsimp only; omega)⟩, rfl⟩
  next long =>
  split at begun
  next three =>
    simp only [long, three, ↓reduceIte, and_true]
    simp only [toNat_lt, UInt8.reduceToNat] at long three
    cases begun
    refine ⟨⟨by simp, high, ?_, ?_⟩, rfl⟩
    · simp only [toNat_le, toNat_bound, UInt8.reduceToNat]
      split <;> omega
    · intro c low up
      simp only [toNat_le, toNat_bound, UInt8.reduceToNat] at low up
      refine ends_next ?_ ?_ <;> dsimp only <;> split at low <;> split at up <;> omega
  next longer =>
  split at begun
  next four =>
    simp only [long, longer, four, ↓reduceIte, and_true]
    simp only [toNat_lt, UInt8.reduceToNat] at longer four
    cases begun
    refine ⟨⟨by simp, high, ?_, ?_⟩, rfl⟩
    · simp only [toNat_le, toNat_bound, UInt8.reduceToNat]
      split <;> omega
    · intro c low up d
      simp only [toNat_le, toNat_bound, UInt8.reduceToNat] at low up ⊢
      intro low' up'
      refine ends_next ?_ ?_ <;> split at low <;> split at up <;> omega
  next => cases begun

/-- The bytes a machine has taken without showing them. -/
def held : State → Bytes
  | none => []
  | some pending => pending.taken

/-- The machine is between sequences, or sane. -/
def SaneState (state : State) : Prop :=
  ∀ pending, state = some pending → Sane pending

/-- A first byte that begins no sequence is shown at once. -/
theorem first_single (b : UInt8) (single : (first b).1 = none) :
    b < 0x80 ∧ (first b).2 = [.scalar (asciiChar b)] ∨
      0x80 ≤ b ∧ (first b).2 = [.broken [b]] := by
  by_cases plain : b < 0x80
  · exact .inl ⟨plain, by simp [first, plain, asciiChar]⟩
  · refine .inr ⟨UInt8.not_lt.mp plain, ?_⟩
    simp only [first, plain, ↓reduceIte] at single ⊢
    grind

/-- A broken piece is shown as a character beyond ASCII. -/
theorem broken_far (group : Bytes) : 0x80 ≤ (Piece.broken group).shown.toNat := by
  change 0x80 ≤ '\uFFFD'.toNat
  decide

/-- What a byte that is taken between sequences shows is aligned with it. -/
theorem first_aligned (b : UInt8) (bytes : Bytes) (shown : List Char)
    (more : Aligned (held (first b).1 ++ bytes) shown) :
    Aligned (b :: bytes) ((first b).2.map Piece.shown ++ shown) := by
  cases begun : (first b).1 with
  | some pending =>
    obtain ⟨-, taken, silent⟩ := first_sane b begun
    rw [begun] at more
    simpa [held, taken, silent] using more
  | none =>
    rw [begun] at more
    obtain ⟨plain, shows⟩ | ⟨high, shows⟩ := first_single b begun
    · rw [shows]
      exact .ascii plain more
    · rw [shows]
      exact .beyond (by simp : [b] ≠ []) (by simpa using high) (broken_far [b]) more

/-- A byte that continues a sequence is beyond ASCII like those before it. -/
theorem Sane.grown (sane : Sane pending) (within : pending.low ≤ b) :
    ∀ c ∈ pending.taken ++ [b], 0x80 ≤ c := by
  intro c member
  rcases List.mem_append.mp member with before | last
  · exact sane.taken c before
  · rw [List.mem_singleton.mp last]
    exact UInt8.le_trans sane.low within

/-- A sequence that goes on behind one more byte leaves the machine sane. -/
theorem Sane.next (sane : Sane pending) (within : pending.low ≤ b ∧ b ≤ pending.high)
    (going : pending.after = after + 1) :
    Sane ⟨pending.taken ++ [b], pending.code * 64 + (b.toNat - 0x80), after, 0x80, 0xBF⟩ := by
  have ends := sane.ends
  rw [going] at ends
  exact ⟨by simp, sane.grown within.1, UInt8.le_refl 0x80, ends b within.1 within.2⟩

/-- No byte drives a sane machine mad. -/
theorem step_sane (sane : SaneState state) (b : UInt8) : SaneState (step state b).1 := by
  cases state with
  | none => exact fun _ begun => (first_sane b begun).1
  | some pending =>
    simp only [step]
    split
    next within =>
      split
      next => simp [SaneState]
      next going =>
        rintro _ ⟨⟩
        exact (sane pending rfl).next within going
    next => exact fun _ begun => (first_sane b begun).1

/-- Whatever state the machine is in, what it shows from there on is aligned with
the bytes it holds and those to come. -/
theorem piecesFrom_aligned (state : State) (sane : SaneState state) (bytes : Bytes) :
    Aligned (held state ++ bytes) ((piecesFrom state bytes).map Piece.shown) := by
  induction bytes generalizing state with
  | nil =>
    cases state with
    | none => exact .nil
    | some pending =>
      have pending_sane := sane pending rfl
      exact .beyond pending_sane.filled pending_sane.taken (broken_far _) .nil
  | cons b bytes ih =>
    have restart : Aligned (b :: bytes) (((first b).2 ++ piecesFrom (first b).1 bytes).map Piece.shown) := by
      rw [List.map_append]
      exact first_aligned b bytes _ (ih _ fun pending begun => (first_sane b begun).1)
    cases state with
    | none => exact restart
    | some pending =>
      have pending_sane := sane pending rfl
      simp only [piecesFrom, step]
      split
      next within =>
        split
        next last =>
          have ends := pending_sane.ends
          rw [last] at ends
          have finished := Aligned.beyond (by simp) (pending_sane.grown within.1)
            (ends b within.1 within.2) (ih none (by simp [SaneState]))
          simpa [held, Piece.shown] using finished
        next after going =>
          have went := ih (some ⟨pending.taken ++ [b], _, after, 0x80, 0xBF⟩) (by
            rintro _ ⟨⟩
            exact pending_sane.next within going)
          simpa [held] using went
      next => exact .beyond pending_sane.filled pending_sane.taken (broken_far _) restart

/-- Decoded bytes are aligned with the bytes. -/
theorem decodeLossy_aligned (bytes : Bytes) : Aligned bytes (decodeLossy bytes) :=
  piecesFrom_aligned none (by simp [SaneState]) bytes

/-- A change of single bytes and the same change of single characters keep the two
aligned, if neither carries anything over the end of ASCII. -/
theorem Aligned.mapped (aligned : Aligned bytes chars) (f : Char → Char) (g : UInt8 → UInt8)
    (plain : ∀ b, b < 0x80 → g b < 0x80 ∧ f (asciiChar b) = asciiChar (g b))
    (high : ∀ b, 0x80 ≤ b → 0x80 ≤ g b)
    (far : ∀ c : Char, 0x80 ≤ c.toNat → 0x80 ≤ (f c).toNat) :
    Aligned (bytes.map g) (chars.map f) := by
  induction aligned with
  | nil => exact .nil
  | ascii small _ ih =>
    rw [List.map_cons, List.map_cons, (plain _ small).2]
    exact .ascii (plain _ small).1 ih
  | beyond filled large remote _ ih =>
    rw [List.map_append, List.map_cons]
    refine .beyond (by simpa using filled) ?_ (far _ remote) ih
    rintro _ member
    obtain ⟨b, taken, rfl⟩ := List.mem_map.mp member
    exact high b (large b taken)

theorem asciiChar_toNat (plain : b < 0x80) : (asciiChar b).toNat = b.toNat := by
  have small : b.toNat < 0x80 := toNat_lt.mp plain
  exact ofNat_toNat (.inl (by omega))

theorem asciiChar_inj (plain : b < 0x80) (plain' : b' < 0x80) :
    asciiChar b = asciiChar b' ↔ b = b' := by
  refine ⟨fun same => ?_, fun same => same ▸ rfl⟩
  have numbers := congrArg Char.toNat same
  rw [asciiChar_toNat plain, asciiChar_toNat plain'] at numbers
  exact UInt8.toNat_inj.mp numbers

/-- A byte beyond ASCII begins no ASCII block but the empty one. -/
private theorem not_prefix_beyond (plain : ∀ b ∈ block, b < 0x80) (high : 0x80 ≤ c)
    (filled : block ≠ []) (bytes : Bytes) : ¬ block <+: c :: bytes := by
  cases block with
  | nil => exact absurd rfl filled
  | cons b block =>
    rw [List.cons_prefix_cons]
    rintro ⟨rfl, -⟩
    exact UInt8.not_lt.mpr high (plain b (by simp))

/-- Aligned texts begin with the same ASCII blocks. -/
theorem Aligned.begins (aligned : Aligned bytes chars) (plain : ∀ b ∈ block, b < 0x80) :
    block.map asciiChar <+: chars ↔ block <+: bytes := by
  induction aligned generalizing block with
  | nil => simp
  | @ascii b bytes chars small _ ih =>
    cases block with
    | nil => simp
    | cons a block =>
      obtain ⟨first, others⟩ := List.forall_mem_cons.mp plain
      rw [List.map_cons, List.cons_prefix_cons, List.cons_prefix_cons, ih others,
        asciiChar_inj first small]
  | @beyond group bytes chars c filled large remote _ _ =>
    cases block with
    | nil => simp
    | cons a block =>
      obtain ⟨lead, group, rfl⟩ := List.exists_cons_of_ne_nil filled
      have never := not_prefix_beyond plain (large lead (by simp)) (by simp) (group ++ bytes)
      have apart : asciiChar a ≠ c := by
        intro same
        have small : a.toNat < 0x80 := toNat_lt.mp (plain a (by simp))
        rw [← same, asciiChar_toNat (plain a (by simp))] at remote
        omega
      rw [List.map_cons, List.cons_prefix_cons, List.cons_append]
      simp [apart, never]

/-- Aligned texts hold the same ASCII blocks. -/
theorem Aligned.holds (aligned : Aligned bytes chars) (plain : ∀ b ∈ block, b < 0x80) :
    block.map asciiChar <:+: chars ↔ block <:+: bytes := by
  by_cases filled : block = []
  · simp [filled]
  have skip (group bytes : Bytes) (large : ∀ b ∈ group, 0x80 ≤ b) :
      block <:+: group ++ bytes ↔ block <:+: bytes := by
    induction group with
    | nil => rfl
    | cons lead group ih =>
      obtain ⟨first, others⟩ := List.forall_mem_cons.mp large
      rw [List.cons_append, List.infix_cons_iff, ih others]
      simp [not_prefix_beyond plain first filled]
  induction aligned with
  | nil => simp
  | ascii small more ih =>
    rw [List.infix_cons_iff, List.infix_cons_iff]
    exact or_congr ((Aligned.ascii small more).begins plain) ih
  | @beyond group bytes chars c some large remote more ih =>
    obtain ⟨lead, group, rfl⟩ := List.exists_cons_of_ne_nil some
    have never : ¬ block.map asciiChar <+: c :: chars := by
      rw [(Aligned.beyond some large remote more).begins plain]
      exact not_prefix_beyond plain (large lead (by simp)) filled _
    rw [List.infix_cons_iff, skip _ _ large]
    exact (or_iff_right never).trans ih

/-- A block of ASCII bytes stands in the decoded bytes exactly if it stands in the
bytes. -/
theorem occursIn_decodeLossy (plain : ∀ b ∈ block, b < 0x80) (bytes : Bytes) :
    occursIn (block.map asciiChar) (decodeLossy bytes) = true ↔ block <:+: bytes :=
  occursIn_iff.trans ((decodeLossy_aligned bytes).holds plain)

theorem mem_decodeLossy_iff (plain : b < 0x80) : asciiChar b ∈ decodeLossy bytes ↔ b ∈ bytes := by
  have single : ∀ byte ∈ [b], byte < 0x80 := by simpa using plain
  have same := (decodeLossy_aligned bytes).holds single
  rwa [List.map_singleton, List.singleton_infix_iff, List.singleton_infix_iff] at same

/-- Only nothing is decoded to nothing. -/
theorem decodeLossy_eq_nil_iff : decodeLossy bytes = [] ↔ bytes = [] := by
  refine ⟨fun empty => ?_, fun empty => empty ▸ rfl⟩
  have aligned := decodeLossy_aligned bytes
  rw [empty] at aligned
  cases aligned
  rfl

end ChangelogSql.LossyText
