import ChangelogSql.Text.Terminal
import ChangelogSql.Proofs.LossyText

/-! The machines that read bytes, one at a time. What a machine gives for a text is
what it gives for the pieces of the text, each piece taken from where the one before
it has led. The encoded bytes of a character lead the decoder back to where it was
and give that character, and a byte of ASCII cuts a text in two that have nothing to
do with one another. -/
namespace ChangelogSql.ByteMachines
open Text Text.Utf8 LossyText

/-- A machine that is in one state takes some bytes, gives something for them, and is
in another state then. -/
inductive Takes {State Given : Type} (step : State → UInt8 → State × List Given) :
    State → Bytes → List Given → State → Prop
  | nothing {state} : Takes step state [] [] state
  | byte {state b rest more last} (others : Takes step (step state b).1 rest more last) :
      Takes step state (b :: rest) ((step state b).2 ++ more) last

variable {State Given : Type} {step : State → UInt8 → State × List Given}
variable {state next last : State} {front rest bytes : Bytes} {given more : List Given}
variable {chars left right : List Char} {c : Char} {b : UInt8} {n : Nat} {pending : Pending}

theorem Takes.append (first : Takes step state front given next)
    (second : Takes step next rest more last) :
    Takes step state (front ++ rest) (given ++ more) last := by
  induction first with
  | nothing => exact second
  | byte others ih =>
    rw [List.append_assoc]
    exact .byte (ih second)

theorem Takes.of_step (one : step state b = (next, given)) : Takes step state [b] given next := by
  have taken : Takes step state [b] ((step state b).2 ++ []) (step state b).1 := .byte .nothing
  rwa [one, List.append_nil] at taken

/-- A machine that no byte moves stays where it is. -/
theorem Takes.stays (still : ∀ b ∈ bytes, step state b = (state, [])) :
    Takes step state bytes [] state := by
  induction bytes with
  | nil => exact .nothing
  | cons b bytes ih =>
    obtain ⟨first, others⟩ := List.forall_mem_cons.mp still
    exact (Takes.of_step first).append (ih others)

/-- Whatever a machine is given, it takes. -/
theorem takes_all (state : State) (bytes : Bytes) :
    ∃ given last, Takes step state bytes given last := by
  induction bytes generalizing state with
  | nil => exact ⟨[], state, .nothing⟩
  | cons b rest ih =>
    obtain ⟨more, last, taken⟩ := ih (step state b).1
    exact ⟨_, last, .byte taken⟩

/-- The cuts of a text begin with those of its front. -/
theorem piecesFrom_append {state last : Utf8.State} {given : List Piece}
    (taken : Takes Utf8.step state front given last) (rest : Bytes) :
    piecesFrom state (front ++ rest) = given ++ piecesFrom last rest := by
  induction taken with
  | nothing => rfl
  | byte others ih =>
    rw [List.cons_append, List.append_assoc, ← ih]
    rfl

/-- What is let through of a text begins with what is let through of its front. -/
theorem strippedFrom_append {state last : Terminal.State}
    (taken : Takes Terminal.step state front chars last) (rest : Bytes) :
    Terminal.strippedFrom state (front ++ rest) = chars ++ Terminal.strippedFrom last rest := by
  induction taken with
  | nothing => rfl
  | byte others ih =>
    rw [List.cons_append, List.append_assoc, ← ih]
    rfl

/-- Outside of sequences the bytes go through the decoder, as long as no sequence
begins. -/
theorem takes_ground {char char' : Utf8.State} {given : List Piece}
    (decoded : Takes Utf8.step char bytes given char') (still : 0x1B ∉ bytes) :
    Takes Terminal.step (.ground char) bytes (given.flatMap Terminal.kept) (.ground char') := by
  induction decoded with
  | nothing => exact .nothing
  | @byte char b rest more last others ih =>
    rw [List.mem_cons, not_or] at still
    have taken : Terminal.step (.ground char) b =
        (.ground (Utf8.step char b).1, (Utf8.step char b).2.flatMap Terminal.kept) := by
      simp [Terminal.step, Ne.symm still.1]
    rw [List.flatMap_append]
    exact (Takes.of_step taken).append (ih still.2)

/-- Decoding never leaves the states that it can be in. -/
theorem takes_sane {state last : Utf8.State} {given : List Piece}
    (taken : Takes Utf8.step state bytes given last) (sane : SaneState state) : SaneState last := by
  induction taken with
  | nothing => exact sane
  | byte others ih => exact ih (step_sane sane _)

/-- A byte of ASCII breaks off whatever has begun, and stands for its character. -/
theorem step_ascii {state : Utf8.State} (sane : SaneState state) (plain : b < 0x80) :
    Utf8.step state b = (none, finish state ++ [.scalar (asciiChar b)]) := by
  have shown : first b = (none, [.scalar (asciiChar b)]) := by simp [first, plain, asciiChar]
  cases state with
  | none => exact shown
  | some pending =>
    have low := (sane pending rfl).low
    have beyond : ¬ (pending.low ≤ b ∧ b ≤ pending.high) := fun within =>
      absurd (UInt8.le_trans low within.1) (UInt8.not_le.mpr plain)
    simp only [Utf8.step, beyond, ↓reduceIte, shown, finish, List.singleton_append]

/-- A byte of ASCII cuts what is decoded in two. -/
theorem decodeLossy_cut (plain : b < 0x80) (front rest : Bytes) :
    decodeLossy (front ++ b :: rest) = decodeLossy front ++ asciiChar b :: decodeLossy rest := by
  obtain ⟨given, last, taken⟩ : ∃ given last, Takes Utf8.step none front given last :=
    takes_all none front
  have sane : SaneState last := takes_sane taken (by simp [SaneState])
  have whole : pieces front = given ++ finish last := by
    simpa [pieces, piecesFrom] using piecesFrom_append taken []
  have cut : pieces (front ++ b :: rest) = pieces front ++ .scalar (asciiChar b) :: pieces rest := by
    rw [pieces, piecesFrom_append taken, whole, piecesFrom, step_ascii sane plain]
    simp [pieces]
  rw [decodeLossy, cut]
  simp [decodeLossy, Piece.shown]

/-- A byte is the number it was made from, if that is small enough. -/
theorem byte_toNat (small : n < 0x100) : (UInt8.ofNat n).toNat = n := by
  rw [UInt8.toNat_ofNat', Nat.mod_eq_of_lt small]

/-- A first byte of two carries bits. -/
theorem takes_two (number : b.toNat = n + 0xC0) (low : 2 ≤ n) (high : n < 0x20) :
    Takes Utf8.step none [b] [] (some ⟨[b], n, 0, 0x80, 0xBF⟩) := by
  have two : ¬ n + 0xC0 < 0x80 ∧ ¬ n + 0xC0 < 0xC2 ∧ n + 0xC0 < 0xE0 := by omega
  exact Takes.of_step (by simp [Utf8.step, first, toNat_lt, number, two])

/-- A first byte of three carries bits and bounds the next byte. -/
theorem takes_three (number : b.toNat = n + 0xE0) (high : n < 0x10) :
    ∃ low up, Takes Utf8.step none [b] [] (some ⟨[b], n, 1, low, up⟩) ∧
      low.toNat = (if n = 0 then 0xA0 else 0x80) ∧ up.toNat = if n = 13 then 0x9F else 0xBF := by
  have three : ¬ n + 0xE0 < 0x80 ∧ ¬ n + 0xE0 < 0xC2 ∧ ¬ n + 0xE0 < 0xE0 ∧ n + 0xE0 < 0xF0 := by
    omega
  refine ⟨if b = 0xE0 then 0xA0 else 0x80, if b = 0xED then 0x9F else 0xBF, Takes.of_step ?_, ?_, ?_⟩
  · simp [Utf8.step, first, toNat_lt, number, three]
  · simp [toNat_bound, number]
  · simp [toNat_bound, number]

/-- A first byte of four carries bits and bounds the next byte. -/
theorem takes_four (number : b.toNat = n + 0xF0) (high : n < 5) :
    ∃ low up, Takes Utf8.step none [b] [] (some ⟨[b], n, 2, low, up⟩) ∧
      low.toNat = (if n = 0 then 0x90 else 0x80) ∧ up.toNat = if n = 4 then 0x8F else 0xBF := by
  have four : ¬ n + 0xF0 < 0x80 ∧ ¬ n + 0xF0 < 0xC2 ∧ ¬ n + 0xF0 < 0xE0 ∧ ¬ n + 0xF0 < 0xF0 ∧
      n + 0xF0 < 0xF5 := by
    omega
  refine ⟨if b = 0xF0 then 0x90 else 0x80, if b = 0xF4 then 0x8F else 0xBF, Takes.of_step ?_, ?_, ?_⟩
  · simp [Utf8.step, first, toNat_lt, number, four]
  · simp [toNat_bound, number]
  · simp [toNat_bound, number]

/-- The last byte of a sequence adds its bits and completes the character. -/
theorem takes_last (done : pending.after = 0)
    (low : pending.low.toNat ≤ n % 0x40 + 0x80) (high : n % 0x40 + 0x80 ≤ pending.high.toNat)
    (value : pending.code * 64 + n % 0x40 = c.toNat) :
    Takes Utf8.step (some pending) [UInt8.ofNat (n % 0x40 + 0x80)] [.scalar c] none := by
  have number : (UInt8.ofNat (n % 0x40 + 0x80)).toNat = n % 0x40 + 0x80 := byte_toNat (by omega)
  refine Takes.of_step ?_
  simp only [Utf8.step, toNat_le, number, low, high, and_self, ↓reduceIte, done]
  simp [value]

/-- A byte before the last adds its bits. -/
theorem takes_middle {after : Nat} {state : Utf8.State} {given : List Piece}
    (going : pending.after = after + 1)
    (low : pending.low.toNat ≤ n % 0x40 + 0x80) (high : n % 0x40 + 0x80 ≤ pending.high.toNat)
    (others : Takes Utf8.step (some ⟨pending.taken ++ [UInt8.ofNat (n % 0x40 + 0x80)],
      pending.code * 64 + n % 0x40, after, 0x80, 0xBF⟩) rest given state) :
    Takes Utf8.step (some pending) (UInt8.ofNat (n % 0x40 + 0x80) :: rest) given state := by
  have number : (UInt8.ofNat (n % 0x40 + 0x80)).toNat = n % 0x40 + 0x80 := byte_toNat (by omega)
  have continued : Utf8.step (some pending) (UInt8.ofNat (n % 0x40 + 0x80)) =
      (some ⟨pending.taken ++ [UInt8.ofNat (n % 0x40 + 0x80)], pending.code * 64 + n % 0x40, after,
        0x80, 0xBF⟩, []) := by
    simp only [Utf8.step, toNat_le, number, low, high, and_self, ↓reduceIte, going]
    simp
  exact (Takes.of_step continued).append others

/-- The bytes of a character are decoded to that character, and nothing is left over. -/
theorem takes_char (c : Char) :
    Takes Utf8.step none (String.utf8EncodeChar c) [.scalar c] none := by
  obtain ⟨v, spelled⟩ : ∃ v, c.val.toNat = v := ⟨_, rfl⟩
  have value : c.toNat = v := spelled
  have scalar : v < 0xD800 ∨ 0xDFFF < v ∧ v < 0x110000 := spelled ▸ c.valid
  have low (n : Nat) : (0x80 : UInt8).toNat ≤ n % 0x40 + 0x80 := by
    simp only [UInt8.reduceToNat]
    omega
  have high (n : Nat) : n % 0x40 + 0x80 ≤ (0xBF : UInt8).toNat := by
    simp only [UInt8.reduceToNat]
    omega
  unfold String.utf8EncodeChar
  dsimp only
  rw [spelled]
  split
  next one =>
    have number : (UInt8.ofNat v).toNat = v := byte_toNat (by omega)
    have plain : UInt8.ofNat v < 0x80 := by
      rw [toNat_lt, number]
      exact Nat.lt_succ_of_le one
    have shown : asciiChar (UInt8.ofNat v) = c := by
      rw [asciiChar, number, ← value, Char.ofNat_toNat]
    have between : SaneState none := by simp [SaneState]
    have taken := Takes.of_step (step_ascii between plain)
    rwa [shown] at taken
  next =>
  split
  next two =>
    have lead := takes_two (n := v / 64 % 0x20) (byte_toNat (by omega)) (by omega) (by omega)
    refine lead.append (takes_last rfl (low v) (high v) ?_)
    dsimp only
    omega
  next =>
  split
  next three =>
    obtain ⟨least, most, lead, lowest, highest⟩ :=
      takes_three (n := v / 4096 % 0x10) (byte_toNat (by omega)) (by omega)
    refine lead.append (takes_middle rfl ?_ ?_ (takes_last rfl (low v) (high v) ?_))
    · rw [lowest]; split <;> omega
    · rw [highest]; split <;> omega
    · dsimp only; omega
  next =>
    obtain ⟨least, most, lead, lowest, highest⟩ :=
      takes_four (n := v / 262144 % 0x08) (byte_toNat (by omega)) (by omega)
    refine lead.append (takes_middle rfl ?_ ?_
      (takes_middle rfl (low _) (high _) (takes_last rfl (low v) (high v) ?_)))
    · rw [lowest]; split <;> omega
    · rw [highest]; split <;> omega
    · dsimp only; omega

theorem takes_encode (chars : List Char) :
    Takes Utf8.step none (encode chars) (chars.map Piece.scalar) none := by
  induction chars with
  | nil => exact .nothing
  | cons c chars ih => exact (takes_char c).append ih

theorem pieces_encode (chars : List Char) : pieces (encode chars) = chars.map Piece.scalar := by
  simpa [pieces, piecesFrom, finish] using piecesFrom_append (takes_encode chars) []

/-- A text comes back from its bytes. -/
theorem decodeLossy_encode (chars : List Char) : decodeLossy (encode chars) = chars := by
  rw [decodeLossy, pieces_encode, List.map_map]
  exact List.map_id' chars

/-- The bytes of a text are well-formed. -/
theorem decode?_encode (chars : List Char) : decode? (encode chars) = some chars := by
  rw [decode?, pieces_encode]
  induction chars with
  | nil => rfl
  | cons c chars ih =>
    rw [List.map_cons, List.mapM_cons, ih]
    rfl

/-- The bytes of ASCII in a text are its characters of ASCII. -/
theorem mem_encode_iff (plain : b < 0x80) : b ∈ encode chars ↔ asciiChar b ∈ chars := by
  rw [← mem_decodeLossy_iff plain, decodeLossy_encode]

end ChangelogSql.ByteMachines
