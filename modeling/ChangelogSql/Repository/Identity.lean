import ChangelogSql.Repository.Setting
import ChangelogSql.Utility.Calendar

/-!
Who does something, and when. Names and dates come from the environment, from
settings, or from the clock. A date is read piece by piece, and each piece says
what it can: a day, a time, a zone.
-/

namespace ChangelogSql.Repository

open Text (ascii)
open Utility (Day Moment)

/-- What has been understood of a date. -/
structure Almanac where
  year? : Option Int
  month? : Option Nat
  day? : Option Nat
  second? : Option Nat
  /-- Minutes that the zone lies ahead. -/
  zone? : Option Int
  /-- Seconds since the beginning of 1970, where they are said so. -/
  total? : Option Nat

namespace Almanac

def empty : Almanac := ⟨none, none, none, none, none, none⟩

/-- A year in two or four digits. -/
def fullYear? (number : Nat) : Option Int :=
  if 1970 ≤ number && number < 2100 then some number
  else if 70 < number && number < 100 then some (1900 + number)
  else if number < 38 then some (2000 + number)
  else none

/-- The date that three numbers say, where they can. -/
def withDate? (almanac : Almanac) (year month day : Nat) : Option Almanac := do
  let year ← fullYear? year
  if 1 ≤ month && month ≤ 12 && 1 ≤ day && day ≤ 31 then
    return { almanac with year? := some year, month? := some month, day? := some day }
  else none

/-- The time that three numbers say, where they can. -/
def withTime? (almanac : Almanac) (hour minute second : Nat) : Option Almanac :=
  if hour ≤ 24 && minute < 60 && second ≤ 60 then
    some { almanac with second? := some (hour * 3600 + minute * 60 + second) }
  else none

/-- Digits in front, and what comes behind them. -/
def digits (text : Bytes) : Bytes × Bytes :=
  let digits := text.takeWhile Text.Ascii.isDigit
  (digits, text.drop digits.length)

/-- Three numbers with the same sign between them, the third perhaps missing. -/
def threesome (text : Bytes) (sign : UInt8) : Nat × Nat × Option Nat × Bytes :=
  let (first, rest) := digits text
  let (second, rest) := digits (rest.drop 1)
  let value := Text.Ascii.value 10
  match rest with
  | b :: more =>
    if b = sign && more.head?.any Text.Ascii.isDigit then
      let (third, rest) := digits more
      (value first, value second, some (value third), rest)
    else (value first, value second, none, rest)
  | [] => (value first, value second, none, [])

/-- Numbers with signs between them. -/
def withNumbers? (almanac : Almanac) (text : Bytes) (sign : UInt8) : Option (Almanac × Bytes) :=
  let (first, second, third?, rest) := threesome text sign
  if sign = ascii ':' then
    let rest :=
      match rest with
      | 0x2E :: more => if more.head?.any Text.Ascii.isDigit then (digits more).2 else rest
      | rest => rest
    (almanac.withTime? first second (third?.getD 0)).map fun almanac => (almanac, rest)
  else
    let third := third?.getD 0
    let found? :=
      if 70 < first then
        (almanac.withDate? first second third).or (almanac.withDate? first third second)
      else
        let american? := if sign = ascii '.' then none else almanac.withDate? third first second
        american?.or (almanac.withDate? third second first)
    found?.map fun almanac => (almanac, rest)

/-- A number by itself. -/
def withNumber (almanac : Almanac) (count number : Nat) : Almanac :=
  let day := Text.Ascii.value 10
  let text := Text.Ascii.ofNat number
  let text := List.replicate (count - text.length) (ascii '0') ++ text
  let part (start size : Nat) : Nat := day ((text.drop start).take size)
  if count = 8 then (almanac.withDate? (part 0 4) (part 4 2) (part 6 2)).getD almanac
  else if count = 6 then (almanac.withTime? (part 0 2) (part 2 2) (part 4 2)).getD almanac
  else if count = 4 && almanac.second? = some 0 && almanac.zone?.isNone then
    (almanac.withTime? (part 0 2) (part 2 2) 0).getD almanac
  else if count = 4 then
    if number ≤ 1400 && almanac.zone?.isNone then
      { almanac with zone? := some (number / 100 * 60 + number % 100) }
    else if 1900 < number && number < 2100 then { almanac with year? := some number }
    else almanac
  else if 4 < count then almanac
  else if count = 2 && almanac.second? = some 0 && number < 24 && almanac.day?.isSome then
    { almanac with second? := some (number * 3600) }
  else if 0 < number && number < 32 && almanac.day?.isNone then
    { almanac with day? := some number }
  else if count = 2 && almanac.year?.isNone && number < 10 && almanac.day?.isSome then
    { almanac with year? := some (2000 + number) }
  else if count = 2 && almanac.year?.isNone && 70 ≤ number then
    { almanac with year? := some (1900 + number) }
  else if 0 < number && number < 13 && almanac.month?.isNone then
    { almanac with month? := some number }
  else almanac

/-- Nothing of a date has been said. -/
def isBlank (almanac : Almanac) : Bool :=
  almanac.year?.isNone && almanac.month?.isNone && almanac.day?.isNone && almanac.second?.isNone

/-- Zones by their names, in hours. -/
def zones : List (String × Int) :=
  [("utc", 0), ("gmt", 0), ("z", 0), ("wet", 0), ("bst", 1), ("cet", 1), ("met", 1), ("eet", 2),
    ("cest", 2), ("est", -5), ("edt", -4), ("cst", -6), ("cdt", -5), ("mst", -7), ("mdt", -6),
    ("pst", -8), ("pdt", -7), ("jst", 9)]

/-- A word. -/
def withWord (almanac : Almanac) (word : Bytes) : Almanac :=
  let word := Bytes.shown (word.map Text.Ascii.lower)
  let start := word.take 3
  let month? := Day.monthNames.findIdx? fun name =>
    (name.take 3).toString.toLower = start.toString
  match month?, zones.lookup word with
  | some month, _ => { almanac with month? := some (month + 1) }
  | none, some hours => { almanac with zone? := some (hours * 60) }
  | none, none =>
    match word, almanac.second? with
    | "am", some second => { almanac with second? := some (second % 43200) }
    | "pm", some second => { almanac with second? := some (second % 43200 + 43200) }
    | _, _ => almanac

/-- A zone as hours and minutes, behind its sign. -/
def withZone (almanac : Almanac) (sign : UInt8) (text : Bytes) : Almanac × Bytes :=
  let (number, rest) := digits text
  let value := Text.Ascii.value 10 number
  let (minutes, rest) :=
    if number.length = 4 then (value / 100 * 60 + value % 100, rest)
    else
      match rest with
      | 0x3A :: more =>
        let (minute, rest) := digits more
        (value * 60 + Text.Ascii.value 10 minute, rest)
      | rest => (value * 60, rest)
  let minutes : Int := if sign = ascii '-' then -(minutes : Int) else minutes
  ({ almanac with zone? := some minutes }, rest)

/-- What a text says, piece by piece. `fuel` bounds how many pieces there are. -/
def read : Nat → Bytes → Almanac → Almanac
  | 0, _, almanac => almanac
  | _, [], almanac => almanac
  | fuel + 1, b :: rest, almanac =>
    if Text.Ascii.isLetter b then
      if b = ascii 'T' && rest.head?.any Text.Ascii.isDigit && almanac.second?.isNone then
        read fuel rest { almanac with second? := some 0 }
      else
        let word := (b :: rest).takeWhile Text.Ascii.isLetter
        read fuel ((b :: rest).drop word.length) (almanac.withWord word)
    else if Text.Ascii.isDigit b then
      let (number, behind) := digits (b :: rest)
      let value := Text.Ascii.value 10 number
      if 100000000 ≤ value && almanac.isBlank then
        read fuel behind { almanac with total? := some value }
      else
        let several? :=
          match behind with
          | sign :: next :: _ =>
            let isSign := sign = ascii ':' || sign = ascii '.' || sign = ascii '/'
              || sign = ascii '-'
            if isSign && Text.Ascii.isDigit next then almanac.withNumbers? (b :: rest) sign
            else none
          | _ => none
        match several? with
        | some (almanac, behind) => read fuel behind almanac
        | none => read fuel behind (almanac.withNumber number.length value)
    else if (b = ascii '-' || b = ascii '+') && rest.head?.any Text.Ascii.isDigit
        && (almanac.second?.isSome || almanac.total?.isSome) then
      let (almanac, rest) := almanac.withZone b rest
      read fuel rest almanac
    else read fuel rest almanac

/-- A zone as it is written down. -/
def shownZone (minutes : Int) : Bytes :=
  let size := minutes.natAbs
  let sign := if minutes < 0 then "-" else "+"
  Bytes.ofString (sign ++ Moment.digits 4 (size / 60 * 100 + size % 60))

/-- The moment, in seconds since the beginning of 1970, with its zone. -/
def moment? (almanac : Almanac) : Option (Int × Bytes) :=
  let zone := almanac.zone?.getD 0
  match almanac.total?, almanac.year?, almanac.month?, almanac.day?, almanac.second? with
  | some total, _, _, _, _ => some (total, shownZone zone)
  | none, some year, some month, some day, some second =>
    if 2100 ≤ year then none
    else some ((Moment.mk ⟨year, month, day⟩ second).seconds - zone * 60, shownZone zone)
  | _, _, _, _, _ => none

/-- A zone written as a sign and four digits. -/
def isZone (text : Bytes) : Bool :=
  match text with
  | sign :: rest =>
    (sign = ascii '+' || sign = ascii '-') && rest.length = 4 && rest.all Text.Ascii.isDigit
  | [] => false

/-- The moment that a text says. -/
def ofBytes? (text : Bytes) : Option (Int × Bytes) :=
  let plain? : Option (Int × Bytes) :=
    match text with
    | 0x40 :: rest =>
      match Text.splitAt (ascii ' ') rest with
      | [seconds, zone] =>
        if isZone zone then
          (Text.Ascii.decimal? seconds).map fun seconds => ((seconds : Int), zone)
        else none
      | _ => none
    | _ => none
  plain?.or (read (text.length + 1) text empty).moment?

end Almanac

namespace Work

/-- Seconds since the beginning of 1970, now. -/
def now : Work Int := do
  return (((← get).view.disk.clock / 1000000000 : Nat) : Int)

/-- The first of some texts that is there and not empty. -/
def firstOf (texts : List (Option Bytes)) : Option Bytes :=
  texts.findSome? fun text? => text?.filter (· ≠ [])

/-- A name or an address as it is written down: without what would not be understood when it is read
again, and without signs at its ends. -/
def cleaned (text : Bytes) : Bytes :=
  let isCrud (b : UInt8) : Bool :=
    b ≤ 0x20 || (Bytes.ofString ".,:;<>\"\\'").contains b
  let text := (text.dropWhile isCrud).reverse.dropWhile isCrud
  text.reverse.filter fun b => b ≠ 0x0A && b ≠ ascii '<' && b ≠ ascii '>'

/-- A date that somebody gives on purpose; the time of day need not be said. -/
def dateGiven (text : Bytes) : Work (Int × Bytes) := do
  match Almanac.ofBytes? text with
  | some found => return found
  | none =>
    let now ← now
    let time := (Moment.ofSeconds now).second
    let almanac := Almanac.read (text.length + 1) text Almanac.empty
    match { almanac with second? := some (almanac.second?.getD time) }.moment? with
    | some found => return found
    | none =>
      if Bytes.shown text = "now" then return (now, Bytes.ofString "+0000")
      else if Bytes.shown text = "yesterday" then return (now - 86400, Bytes.ofString "+0000")
      else die (Bytes.ofString "invalid date format: " ++ text)

/-- Who plays a part in what is done, and when. -/
def signature (part : String) : Work Signature := do
  let given (suffix : String) : Work (Option Bytes) :=
    setting? ("GIT_" ++ part ++ "_" ++ suffix)
  let key := part.toLower
  let name? := firstOf [← given "NAME", ← valueOf? (key ++ ".name"), ← valueOf? "user.name"]
  let address? := firstOf [← given "EMAIL", ← valueOf? (key ++ ".email"),
    ← valueOf? "user.email", ← setting? "EMAIL"]
  let (time, zone) ←
    match firstOf [← given "DATE"] with
    | some text =>
      match Almanac.ofBytes? text with
      | some found => pure found
      | none => die (Bytes.ofString "invalid date format: " ++ text)
    | none => pure (← now, Bytes.ofString "+0000")
  match address? with
  | none =>
    note (Bytes.ofString (part.capitalize ++ " identity unknown\n\n*** Please tell me who you are.\n"
      ++ "\nRun\n\n  git config --global user.email \"you@example.com\"\n"
      ++ "  git config --global user.name \"Your Name\"\n\n"
      ++ "to set your account's default identity.\n"
      ++ "Omit --global to set the identity only in this repository.\n\n"))
    die (Bytes.ofString "unable to auto-detect email address (got 'root@localhost.(none)')")
  | some address =>
    let name := cleaned (name?.getD (Bytes.ofString "root"))
    if name = [] then
      die (Bytes.ofString "empty ident name (for <" ++ address ++ Bytes.ofString ">) not allowed")
    else return ⟨name, cleaned address, time, zone⟩

end Work

end ChangelogSql.Repository
