import ChangelogSql.Text.Ascii
import ChangelogSql.Text.Search

/-!
Permission bits as they are written: octal digits, or letters that say for whom
what is granted, taken away or laid down.
-/

namespace ChangelogSql.Files.Mode

open Text (ascii)

/-- All bits that can be changed. -/
def all : Nat := 0o7777

/-- The bits of those whom a letter means. -/
def share? (letter : UInt8) : Option Nat :=
  if letter = ascii 'u' then some 0o4700
  else if letter = ascii 'g' then some 0o2070
  else if letter = ascii 'o' then some 0o1007
  else if letter = ascii 'a' then some all
  else none

/-- The bits of what a letter permits, for everyone. Execution can be permitted only where it makes
sense. -/
def permission? (isDirectory : Bool) (mode : Nat) (letter : UInt8) : Option Nat :=
  if letter = ascii 'r' then some 0o444
  else if letter = ascii 'w' then some 0o222
  else if letter = ascii 'x' then some 0o111
  else if letter = ascii 'X' then some (if isDirectory || mode &&& 0o111 ≠ 0 then 0o111 else 0)
  else if letter = ascii 's' then some 0o6000
  else if letter = ascii 't' then some 0o1000
  else none

/-- What someone is permitted, for everyone. -/
def copied (letter : UInt8) (mode : Nat) : Nat :=
  let shift := if letter = ascii 'u' then 6 else if letter = ascii 'g' then 3 else 0
  (mode >>> shift &&& 7) * 0o111

def isOperator (b : UInt8) : Bool :=
  b = ascii '+' || b = ascii '-' || b = ascii '='

/-- Bits without others. -/
def without (mode bits : Nat) : Nat :=
  mode - (mode &&& bits)

/-- The mode after some actions for those who have `share`; everyone is meant where that is
nothing. `fuel` bounds the number of actions. -/
def actions? (umask : Nat) (isDirectory : Bool) (share : Nat) : Nat → Bytes → Nat → Option Nat
  | 0, _, _ => none
  | _, [], mode => some mode
  | fuel + 1, operator :: rest, mode =>
    if !isOperator operator then none
    else
      let letters := rest.takeWhile fun b => !isOperator b
      let reach := if share = 0 then without all umask else share
      let value? : Option Nat :=
        match letters with
        | [letter] =>
          if letter = ascii 'u' || letter = ascii 'g' || letter = ascii 'o' then
            some (copied letter mode)
          else permission? isDirectory mode letter
        | letters =>
          if letters ≠ [] && letters.all Text.Ascii.isOctal && share = 0 then
            some (Text.Ascii.value 8 letters)
          else
            (letters.mapM (permission? isDirectory mode)).map fun bits => bits.foldl (· ||| ·) 0
      match value? with
      | none => none
      | some value =>
        let bits := value &&& reach
        let mode :=
          if operator = ascii '+' then mode ||| bits
          else if operator = ascii '-' then without mode bits
          else if share = 0 then bits
          else without mode share ||| bits
        actions? umask isDirectory share fuel (rest.drop letters.length) mode

/-- The mode after one clause: those who are meant, and actions. -/
def clause? (umask : Nat) (isDirectory : Bool) (clause : Bytes) (mode : Nat) : Option Nat :=
  let who := clause.takeWhile fun b => (share? b).isSome
  let share := (who.filterMap share?).foldl (· ||| ·) 0
  match clause.drop who.length with
  | [] => none
  | actions => actions? umask isDirectory share (actions.length + 1) actions mode

/-- The mode after a change that is written in a text. -/
def changed? (text : Bytes) (umask : Nat) (isDirectory : Bool) (mode : Nat) : Option Nat :=
  if text ≠ [] && text.all Text.Ascii.isOctal then
    let value := Text.Ascii.value 8 text
    if value ≤ all then some value else none
  else
    (Text.splitAt (ascii ',') text).foldlM (fun mode clause => clause? umask isDirectory clause mode)
      mode

end ChangelogSql.Files.Mode
