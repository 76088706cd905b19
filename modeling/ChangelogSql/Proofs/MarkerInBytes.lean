import ChangelogSql.Proofs.ByteMachines
import ChangelogSql.Proofs.DiscoveryExactness

/-! Where a block of ASCII stands in what is decoded. It stands there exactly where it
stands in the bytes, and what is decoded in front of it and behind it is what the bytes
in front of it and behind it are decoded to. So a marker can be looked for in decoded
text or in the bytes. -/
namespace ChangelogSql.MarkerInBytes
open Files Discovery Text Text.Utf8 LossyText ByteMachines DiscoveryExactness

variable {block bytes : Bytes} {left right : List Char} {b : UInt8}

/-- A block of ASCII is decoded as it is, and cuts what is decoded in two. -/
theorem decodeLossy_block (filled : block ≠ []) (plain : ∀ b ∈ block, b < 0x80)
    (front rest : Bytes) :
    decodeLossy (front ++ block ++ rest) =
      decodeLossy front ++ block.map asciiChar ++ decodeLossy rest := by
  induction block generalizing front with
  | nil => exact absurd rfl filled
  | cons b block ih =>
    obtain ⟨first, others⟩ := List.forall_mem_cons.mp plain
    rw [List.append_assoc, List.cons_append, decodeLossy_cut first]
    by_cases last : block = []
    · simp [last]
    · have behind : decodeLossy (block ++ rest) = block.map asciiChar ++ decodeLossy rest := by
        simpa [decodeLossy_eq_nil_iff.mpr] using ih last others []
      simp [behind]

/-- A character of ASCII in what is decoded comes from its byte, which cuts the bytes
at the same place. -/
theorem cut_of_decodeLossy (plain : b < 0x80)
    (decoded : decodeLossy bytes = left ++ asciiChar b :: right) :
    ∃ front rest, bytes = front ++ b :: rest ∧ decodeLossy front = left ∧
      decodeLossy rest = right := by
  induction size : bytes.length using Nat.strong_induction_on generalizing bytes left with
  | _ count ih =>
    have among : asciiChar b ∈ decodeLossy bytes := by simp [decoded]
    obtain ⟨front, rest, rfl, fresh⟩ :=
      List.eq_append_cons_of_mem ((mem_decodeLossy_iff plain).mp among)
    have new : asciiChar b ∉ decodeLossy front := mt (mem_decodeLossy_iff plain).mp fresh
    rw [decodeLossy_cut plain, List.append_eq_append_iff] at decoded
    rcases decoded with ⟨between, before, behind⟩ | ⟨between, before, behind⟩
    · cases between with
      | nil =>
        cases behind
        exact ⟨front, rest, rfl, by simpa using before.symm, rfl⟩
      | cons c between =>
        obtain ⟨rfl, later⟩ := List.cons.inj behind
        have shorter : rest.length < count := by
          rw [← size, List.length_append, List.length_cons]
          omega
        obtain ⟨middle, rest', rfl, between', right'⟩ := ih _ shorter later rfl
        refine ⟨front ++ b :: middle, rest', by simp, ?_, right'⟩
        rw [decodeLossy_cut plain, between', before]
    · cases between with
      | nil =>
        cases behind
        exact ⟨front, rest, rfl, by simpa using before, rfl⟩
      | cons c between =>
        obtain ⟨rfl, -⟩ := List.cons.inj behind
        exact absurd (by simp [before]) new

/-- A block of ASCII stands in what is decoded exactly where it stands in the bytes. -/
theorem decodeLossy_eq_iff (filled : block ≠ []) (plain : ∀ b ∈ block, b < 0x80) :
    decodeLossy bytes = left ++ block.map asciiChar ++ right ↔
      ∃ front rest, bytes = front ++ block ++ rest ∧ decodeLossy front = left ∧
        decodeLossy rest = right := by
  constructor
  · intro decoded
    induction block generalizing bytes left with
    | nil => exact absurd rfl filled
    | cons b block ih =>
      obtain ⟨first, others⟩ := List.forall_mem_cons.mp plain
      rw [List.map_cons, List.append_assoc, List.cons_append] at decoded
      obtain ⟨front, behind, rfl, before, decoded'⟩ := cut_of_decodeLossy first decoded
      by_cases last : block = []
      · subst last
        exact ⟨front, behind, by simp, before, decoded'⟩
      · have start : decodeLossy behind = [] ++ block.map asciiChar ++ right := decoded'
        obtain ⟨between, rest, rfl, nothing, right'⟩ := ih last others start
        rw [decodeLossy_eq_nil_iff] at nothing
        exact ⟨front, rest, by simp [nothing], before, right'⟩
  · rintro ⟨front, rest, rfl, rfl, rfl⟩
    exact decodeLossy_block filled plain front rest

/-- Whether a file is a changelog is told by its bytes: they hold the seventeen bytes of
the marker in a row, whatever else they hold. Decoding, which the search goes through,
moves no occurrence, hides none and makes none up: each stands in the text between what
the bytes in front of it and the bytes behind it are decoded to. -/
theorem marker_told_by_bytes (view : View) (path : Path) :
    looksLikeChangelog view path =
        (view.read path).map (fun content => decide (Bytes.ofString marker <:+: content)) ∧
      (∀ content, isMarked content = true ↔ Bytes.ofString marker <:+: content) ∧
      ((Bytes.ofString marker).length = 17 ∧ (∀ b ∈ Bytes.ofString marker, b < 0x80) ∧
        (Bytes.ofString marker).map asciiChar = "databaseChangeLog".toList) ∧
      ∀ content left right, decodeLossy content = left ++ marker.toList ++ right ↔
        ∃ front rest, content = front ++ Bytes.ofString marker ++ rest ∧
          decodeLossy front = left ∧ decodeLossy rest = right := by
  have plain : ∀ b ∈ Bytes.ofString marker, b < 0x80 := by decide +kernel
  have spelled : (Bytes.ofString marker).map asciiChar = marker.toList := rfl
  refine ⟨?_, fun _ => isMarked_iff, ⟨by decide +kernel, plain, spelled⟩, fun content left right => ?_⟩
  · have same : isMarked = fun content => decide (Bytes.ofString marker <:+: content) := by
      funext content
      rw [Bool.eq_iff_iff, isMarked_iff, decide_eq_true_eq]
    rw [looksLikeChangelog, same]
    rfl
  · rw [← spelled]
    exact decodeLossy_eq_iff (by decide +kernel) plain

/-- A character that breaks off right before the marker does not take its first byte. -/
example : isMarked ([0xF0, 0x9F, 0x98] ++ Bytes.ofString marker) = true := by
  decide +kernel

end ChangelogSql.MarkerInBytes
