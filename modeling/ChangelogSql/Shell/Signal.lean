import ChangelogSql.Programs.Status
import ChangelogSql.Text.Ascii

/-!
Signals as a shell names them. The end of the shell has a name among them.
-/

namespace ChangelogSql.Shell.Signal

open Programs

/-- How many numbers there are, zero among them. -/
def count : Nat := 65

/-- The name of a signal in lists; number 0 is the end of the shell. -/
def name (number : Nat) : String :=
  if number = 0 then "EXIT"
  else if number = 16 then "16"
  else if number = 34 then "RTMIN"
  else if 34 < number && number < 50 then "RTMIN+" ++ toString (number - 34)
  else if 50 ≤ number && number < 64 then "RTMAX-" ++ toString (64 - number)
  else if number = 64 then "RTMAX"
  else
    match signalNames[number - 1]? with
    | some name => name
    | none => toString number

/-- The number that digits write. -/
def ofNumber? (text : Bytes) : Option Nat :=
  (Text.Ascii.decimal? text).filter (· < count)

/-- The number of a signal by its number or by its name, from `least` on. -/
def ofText? (least : Nat) (text : Bytes) : Option Nat :=
  match ofNumber? text with
  | some number => some number
  | none =>
    let isName (number : Nat) : Bool :=
      least ≤ number && text.map Text.Ascii.upper = Bytes.ofString (name number)
    (List.range count).find? isName

/-- What a signal means. -/
def description (number : Nat) : String :=
  match number with
  | 0 => "Unknown signal 0"
  | place + 1 =>
    match signalDescriptions[place]? with
    | some description => description
    | none =>
      if 34 ≤ number && number < count then "Real-time signal " ++ toString (number - 34)
      else "Unknown signal " ++ toString number

end ChangelogSql.Shell.Signal
