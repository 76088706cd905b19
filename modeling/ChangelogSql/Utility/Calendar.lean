import ChangelogSql.Text.Ascii
import ChangelogSql.Text.Search

/-!
Days and times of day as seconds since the beginning of 1970, and as they are
written.
-/

namespace ChangelogSql.Utility

open Text (ascii)

/-- A day of the calendar. -/
structure Day where
  year : Int
  month : Nat
  day : Nat
  deriving DecidableEq

namespace Day

/-- How many days lie between the beginning of 1970 and a day. Years are counted from March, so that
the day that only some years have is the last one. -/
def number (day : Day) : Int :=
  let year := if day.month ≤ 2 then day.year - 1 else day.year
  let era := year.fdiv 400
  let ofEra := year - era * 400
  let month : Int := if day.month ≤ 2 then day.month + 9 else day.month - 3
  let ofYear := (153 * month + 2) / 5 + day.day - 1
  era * 146097 + ofEra * 365 + ofEra / 4 - ofEra / 100 + ofYear - 719468

/-- The day that lies so many days behind the beginning of 1970. -/
def ofNumber (number : Int) : Day :=
  let shifted := number + 719468
  let era := shifted.fdiv 146097
  let ofEra := shifted - era * 146097
  let year := (ofEra - ofEra / 1460 + ofEra / 36524 - ofEra / 146096) / 365
  let ofYear := ofEra - (365 * year + year / 4 - year / 100)
  let month := (5 * ofYear + 2) / 153
  let day := ofYear - (153 * month + 2) / 5 + 1
  let month := if month < 10 then month + 3 else month - 9
  ⟨year + era * 400 + (if month ≤ 2 then 1 else 0), month.toNat, day.toNat⟩

/-- The day of the week, from Sunday on. -/
def ofWeek (day : Day) : Nat :=
  ((day.number + 4).emod 7).toNat

/-- How many days of its year lie before a day. -/
def ofYear (day : Day) : Nat :=
  (day.number - (Day.mk day.year 1 1).number).toNat

def monthNames : List String :=
  ["January", "February", "March", "April", "May", "June", "July", "August", "September",
    "October", "November", "December"]

def weekNames : List String :=
  ["Sunday", "Monday", "Tuesday", "Wednesday", "Thursday", "Friday", "Saturday"]

def monthName (day : Day) : String :=
  (monthNames[day.month - 1]?).getD ""

def weekName (day : Day) : String :=
  (weekNames[day.ofWeek]?).getD ""

end Day

/-- A day with a time of day. -/
structure Moment where
  day : Day
  /-- Seconds since midnight. -/
  second : Nat
  deriving DecidableEq

namespace Moment

/-- The moment so many seconds behind the beginning of 1970. -/
def ofSeconds (seconds : Int) : Moment :=
  ⟨Day.ofNumber (seconds.fdiv 86400), (seconds.fmod 86400).toNat⟩

def seconds (moment : Moment) : Int :=
  moment.day.number * 86400 + moment.second

def hour (moment : Moment) : Nat := moment.second / 3600

def minute (moment : Moment) : Nat := moment.second / 60 % 60

/-- A number with at least so many digits. -/
def digits (width : Nat) (number : Nat) : String :=
  let text := toString number
  "".pushn '0' (width - text.length) ++ text

/-- A number in at least so many columns. -/
def column (width : Nat) (number : Nat) : String :=
  let text := toString number
  "".pushn ' ' (width - text.length) ++ text

/-- What a letter behind a percent sign stands for. -/
def part? (moment : Moment) (letter : Char) : Option String :=
  let day := moment.day
  let year := day.year.toNat
  let date := digits 4 year ++ "-" ++ digits 2 day.month ++ "-" ++ digits 2 day.day
  let time := digits 2 moment.hour ++ ":" ++ digits 2 moment.minute ++ ":"
    ++ digits 2 (moment.second % 60)
  let short (name : String) : String := (name.take 3).toString
  match letter with
  | 'Y' => some (toString day.year)
  | 'C' => some (digits 2 (year / 100))
  | 'y' => some (digits 2 (year % 100))
  | 'm' => some (digits 2 day.month)
  | 'd' => some (digits 2 day.day)
  | 'e' => some (column 2 day.day)
  | 'H' => some (digits 2 moment.hour)
  | 'k' => some (column 2 moment.hour)
  | 'I' => some (digits 2 ((moment.hour + 11) % 12 + 1))
  | 'l' => some (column 2 ((moment.hour + 11) % 12 + 1))
  | 'M' => some (digits 2 moment.minute)
  | 'S' => some (digits 2 (moment.second % 60))
  | 'N' => some "000000000"
  | 'p' => some (if moment.hour < 12 then "AM" else "PM")
  | 'P' => some (if moment.hour < 12 then "am" else "pm")
  | 'j' => some (digits 3 (day.ofYear + 1))
  | 'u' => some (toString ((day.ofWeek + 6) % 7 + 1))
  | 'w' => some (toString day.ofWeek)
  | 'a' => some (short day.weekName)
  | 'A' => some day.weekName
  | 'b' | 'h' => some (short day.monthName)
  | 'B' => some day.monthName
  | 'F' => some date
  | 'T' | 'X' => some time
  | 'R' => some (digits 2 moment.hour ++ ":" ++ digits 2 moment.minute)
  | 'D' | 'x' => some (digits 2 day.month ++ "/" ++ digits 2 day.day ++ "/" ++ digits 2 (year % 100))
  | 'c' =>
    some (short day.weekName ++ " " ++ short day.monthName ++ " " ++ column 2 day.day ++ " " ++ time
      ++ " " ++ toString day.year)
  | 'r' =>
    some (digits 2 ((moment.hour + 11) % 12 + 1) ++ ":" ++ digits 2 moment.minute ++ ":"
      ++ digits 2 (moment.second % 60) ++ (if moment.hour < 12 then " AM" else " PM"))
  | 's' => some (toString moment.seconds)
  | 'z' => some "+0000"
  | 'Z' => some "UTC"
  | 'n' => some "\n"
  | 't' => some "\t"
  | '%' => some "%"
  | _ => none

/-- A moment in the form that a text lays down. -/
def inForm (moment : Moment) : List Char → String
  | '%' :: '-' :: letter :: rest =>
    match moment.part? letter with
    | some text =>
      let short := text.toList.dropWhile fun c => c = '0' || c = ' '
      String.ofList (if short.isEmpty then text.toList.drop (text.length - 1) else short)
        ++ inForm moment rest
    | none => "%-" ++ letter.toString ++ inForm moment rest
  | '%' :: letter :: rest =>
    match moment.part? letter with
    | some text => text ++ inForm moment rest
    | none => "%" ++ letter.toString ++ inForm moment rest
  | c :: rest => c.toString ++ inForm moment rest
  | [] => ""

/-- A number between bounds. -/
def bounded? (least most : Nat) (text : Bytes) : Option Nat := do
  let number ← Text.Ascii.decimal? text
  if least ≤ number && number ≤ most then some number else none

/-- The time of day that a text says: hours and minutes, and perhaps seconds. -/
def timeOfDay? (text : Bytes) : Option Nat :=
  match Text.splitAt (ascii ':') text with
  | [hour, minute] => do
    return (← bounded? 0 23 hour) * 3600 + (← bounded? 0 59 minute) * 60
  | [hour, minute, second] => do
    let second := second.takeWhile (· ≠ ascii '.')
    return (← bounded? 0 23 hour) * 3600 + (← bounded? 0 59 minute) * 60 + (← bounded? 0 60 second)
  | _ => none

/-- The day that a text says. -/
def day? (text : Bytes) : Option Day :=
  match Text.splitAt (ascii '-') text with
  | [year, month, day] => do
    return ⟨← Text.Ascii.decimal? year, ← bounded? 1 12 month, ← bounded? 1 31 day⟩
  | _ => none

/-- The moment that a text says: seconds behind a sign, or a day with or without a time. -/
def ofText? (text : Bytes) : Option Moment :=
  match text with
  | 0x40 :: rest => (Text.Ascii.integer? (rest.takeWhile (· ≠ ascii '.'))).map ofSeconds
  | text =>
    let isBreak (b : UInt8) : Bool := b = ascii ' ' || b = ascii 'T'
    let ends := [" UTC", " +0000", "+0000", "+00:00", "Z", " Z"].map Bytes.ofString
    let text :=
      match ends.find? fun ending => ending.isSuffixOf text with
      | some ending => text.take (text.length - ending.length)
      | none => text
    let first := text.takeWhile fun b => !isBreak b
    match text.drop first.length with
    | [] => (day? first).map fun day => ⟨day, 0⟩
    | _ :: time => do return ⟨← day? first, ← timeOfDay? time⟩

/-- The moment that digits in one row say: a year in two or four of them or none, then month, day,
hour and minute, and seconds behind a point. -/
def ofStamp? (thisYear : Int) (text : Bytes) : Option Moment := do
  let digits := text.takeWhile (· ≠ ascii '.')
  let second ←
    match text.drop digits.length with
    | [] => some 0
    | _ :: second => if second.length = 2 then bounded? 0 60 second else none
  if !digits.all Text.Ascii.isDigit then none
  let (year, rest) ←
    if digits.length = 8 then some (thisYear, digits)
    else if digits.length = 10 then
      let year := Text.Ascii.value 10 (digits.take 2)
      some (((if year < 69 then 2000 + year else 1900 + year : Nat) : Int), digits.drop 2)
    else if digits.length = 12 then
      some ((Text.Ascii.value 10 (digits.take 4) : Int), digits.drop 4)
    else none
  let part (place : Nat) : Bytes := (rest.drop (2 * place)).take 2
  let day : Day := ⟨year, ← bounded? 1 12 (part 0), ← bounded? 1 31 (part 1)⟩
  return ⟨day, (← bounded? 0 23 (part 2)) * 3600 + (← bounded? 0 59 (part 3)) * 60 + second⟩

end Moment

end ChangelogSql.Utility
