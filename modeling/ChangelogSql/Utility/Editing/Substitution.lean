import ChangelogSql.Utility.Editing.Script

/-!
What a substitution makes of a text, and how a text is spelled out.
-/

namespace ChangelogSql.Utility.Editing

open Text (ascii)
open Expression (Program Match)

/-- How letters are changed in what is put in from here on. -/
structure Casing where
  lasting : Turn
  /-- For the next byte only. -/
  once? : Option Turn

namespace Casing

def turned (turn : Turn) (b : UInt8) : UInt8 :=
  match turn with
  | .upper | .upperNext => Text.Ascii.upper b
  | .lower | .lowerNext => Text.Ascii.lower b
  | .asIs => b

/-- Bytes with their letters changed. -/
def apply (casing : Casing) : Bytes → Bytes
  | [] => []
  | b :: rest => turned (casing.once?.getD casing.lasting) b :: rest.map (turned casing.lasting)

/-- How letters are changed after a sign for that. -/
def turnTo (casing : Casing) : Turn → Casing
  | .upperNext => { casing with once? := some .upperNext }
  | .lowerNext => { casing with once? := some .lowerNext }
  | turn => ⟨turn, casing.once?⟩

end Casing

/-- The bytes between two places. -/
def slice (text : ByteArray) (start stop : Nat) : Bytes :=
  (text.extract start stop).toList

/-- What is put in for a match. -/
def filledIn (text : ByteArray) (found : Match) (parts : List Part) : Bytes :=
  let (pieces, _) := parts.foldl
    (fun ((pieces, casing) : List Bytes × Casing) part =>
      let piece : Bytes :=
        match part with
        | .text bytes => bytes
        | .group number =>
          match (found.groups[number]?).bind id with
          | some (start, stop) => slice text start stop
          | none => []
        | .turn _ => []
      match part with
      | .turn turn => (pieces, casing.turnTo turn)
      | _ =>
        (casing.apply piece :: pieces, if piece = [] then casing else { casing with once? := none }))
    ([], ⟨.asIs, none⟩)
  pieces.reverse.flatten

/-- A text with its matches replaced from a place on, and whether there were any. `done` is what has
been made, the last piece first. An empty match right behind another does not count. -/
def replacedFrom (program : Program) (substitution : Substitution) (text : ByteArray) :
    Nat → Nat → Nat → Option Nat → List Bytes → Bool → List Bytes × Bool
  | 0, _, _, _, done, any => (done, any)
  | fuel + 1, start, count, previous?, done, any =>
    if text.size < start then (done, any)
    else
      match program.search text start with
      | none => (slice text start text.size :: done, any)
      | some found =>
        let done := slice text start found.start :: done
        let isEmpty := found.start = found.stop
        let following := slice text found.stop (found.stop + 1)
        if isEmpty && previous? = some found.start then
          replacedFrom program substitution text fuel (found.stop + 1) count none
            (following :: done) any
        else if count + 1 < substitution.number then
          let done := slice text found.start found.stop :: done
          if isEmpty then
            replacedFrom program substitution text fuel (found.stop + 1) (count + 1) none
              (following :: done) any
          else
            replacedFrom program substitution text fuel found.stop (count + 1) (some found.stop) done
              any
        else
          let done := filledIn text found substitution.parts :: done
          if !substitution.isGlobal then (slice text found.stop text.size :: done, true)
          else if isEmpty then
            replacedFrom program substitution text fuel (found.stop + 1) (count + 1) none
              (following :: done) true
          else
            replacedFrom program substitution text fuel found.stop (count + 1) (some found.stop) done
              true

/-- A text with its matches replaced, or nothing where there are none. -/
def replaced? (program : Program) (substitution : Substitution) (text : Bytes) : Option Bytes :=
  let text : ByteArray := ⟨text.toArray⟩
  match replacedFrom program substitution text (text.size + 2) 0 0 none [] false with
  | (done, true) => some done.reverse.flatten
  | (_, false) => none

/-- How a byte is spelled out. -/
def spelled (b : UInt8) : Bytes :=
  let letters : List (UInt8 × String) :=
    [(0x5C, "\\\\"), (0x07, "\\a"), (0x08, "\\b"), (0x0C, "\\f"), (0x0A, "\\n"), (0x0D, "\\r"),
      (0x09, "\\t"), (0x0B, "\\v")]
  match letters.lookup b with
  | some text => Bytes.ofString text
  | none =>
    if 0x20 ≤ b && b ≤ 0x7E then [b]
    else
      let digit (n : Nat) : UInt8 := UInt8.ofNat (48 + n)
      [ascii '\\', digit (b.toNat / 64), digit (b.toNat / 8 % 8), digit (b.toNat % 8)]

/-- A text spelled out in lines of a width; they are not cut where that is zero. -/
def spelledOut (ending : UInt8) (width : Nat) (text : Bytes) : Bytes :=
  let (pieces, _) := text.foldl
    (fun ((pieces, column) : List Bytes × Nat) b =>
      let piece := spelled b
      if 0 < width && width < column + piece.length + 1 then
        (piece :: [ascii '\\', ending] :: pieces, piece.length)
      else (piece :: pieces, column + piece.length))
    ([], 0)
  pieces.reverse.flatten ++ [ascii '$', ending]

end ChangelogSql.Utility.Editing
