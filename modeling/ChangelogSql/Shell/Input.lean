import ChangelogSql.Shell.Field
import ChangelogSql.Shell.Option

/-!
Reading a line into variables. The line is read byte by byte, so that whoever
reads next gets what follows it. It is cut where separators stand; the last
variable gets all that is left.
-/

namespace ChangelogSql.Shell.Input

open Text (ascii)
open Kernel

/-- How many bytes of a line are read at most. -/
def lineLimit : Nat := 1000000

/-- Reads a line: its letters, the last first, and whether it was ended by a line end. A letter is
active unless a backslash stood before it. -/
def readLine (isRaw : Bool) : Nat → Bool → List Letter → Work (List Letter × Bool)
  | 0, _, letters => return (letters, false)
  | fuel + 1, isEscaped, letters => do
    match ← Work.ask (Kernel.Request.read 0 1) with
    | .ok [b] =>
      if b = 0 then readLine isRaw fuel isEscaped letters
      else if isEscaped then
        readLine isRaw fuel false (if b = 0x0A then letters else ⟨b, false⟩ :: letters)
      else if b = 0x5C && !isRaw then readLine isRaw fuel true letters
      else if b = 0x0A then return (letters, true)
      else readLine isRaw fuel false (⟨b, true⟩ :: letters)
    | .error .interrupted => return (letters, false)
    | _ => return (letters, false)

/-- A line that is being cut. -/
structure Cut where
  /-- The last first. -/
  fields : List Bytes
  /-- The bytes of the current field, the last first. -/
  current : Bytes
  /-- A soft separator has just ended a field. -/
  isBehindSoft : Bool
  /-- How many fields may still be ended. -/
  left : Nat
  /-- How long the last field is without the separators at its end, where there are some. -/
  core? : Option Nat

/-- The cut after one more letter. -/
def Cut.take (separators : Bytes) (cut : Cut) (letter : Letter) : Cut :=
  let b := letter.byte
  let isSeparator := letter.active && separators.contains b
  let isSoft := isSeparator && Fields.isSoft b
  if cut.left = 0 then
    let core? :=
      if isSoft then some (cut.core?.getD cut.current.length)
      else if isSeparator && cut.isBehindSoft then cut.core?
      else none
    { cut with
      core?, current := b :: cut.current
      isBehindSoft := cut.isBehindSoft && isSoft }
  else if cut.isBehindSoft && isSoft then cut
  else if cut.isBehindSoft && isSeparator then { cut with isBehindSoft := false }
  else if !isSeparator then { cut with current := b :: cut.current, isBehindSoft := false }
  else if isSoft && cut.current = [] then cut
  else if cut.left = 1 then
    { cut with
      left := 0, isBehindSoft := isSoft, core? := some cut.current.length
      current := b :: cut.current }
  else
    { cut with
      fields := cut.current.reverse :: cut.fields, current := [], isBehindSoft := isSoft
      left := cut.left - 1 }

/-- The fields of a line, as many as there are names at most. -/
def fieldsOfLine (separators : Bytes) (count : Nat) (letters : List Letter) : List Bytes :=
  let cut := letters.foldl (Cut.take separators) ⟨[], [], false, count, none⟩
  let last := cut.current.reverse
  let last :=
    match cut.core? with
    | some length => last.take length
    | none => last
  (if last = [] then cut.fields else last :: cut.fields).reverse

/-- Reads a line into variables. It fails where the input ends before the line does. -/
def read (arguments : List Bytes) : Work Nat := do
  let (given, names) ← optionsOf "r" "p" arguments
  if names.isEmpty then
    Work.fail (Bytes.ofString "arg count")
  let (letters, isEnded) ← readLine (given.any (·.1 = 'r')) lineLimit false []
  let separators := (← get).separators
  let fields := fieldsOfLine separators names.length letters.reverse
  for (name, place) in names.zip (List.range names.length) do
    Work.assignNamed name (fields[place]?.getD [])
  return if isEnded then 0 else 1

end ChangelogSql.Shell.Input
