import ChangelogSql.Numeral.Directive
import ChangelogSql.Numeral.Reader
import ChangelogSql.Shell.Format
import ChangelogSql.Utility.Option
import ChangelogSql.Utility.Quotation

/-!
Putting arguments out as a format lays them out. The format is gone through as
long as it takes arguments and some are left.
-/

namespace ChangelogSql.Utility.Printing

open Text (ascii)
open Numeral
open Tool

/-- Ends the program although there is more to put out. -/
def finish {α : Type} (code : UInt8) : Tool α := do
  setCode code
  stop

/-- Complains about an argument that is no number, of which `rest` was not read. -/
def check (argument rest : Bytes) (isBeyond : Bool) : Tool Unit := do
  let shown := Quotation.cited argument
  if isBeyond then complain (shown ++ Bytes.ofString ": Numerical result out of range")
  else if rest ≠ [] then
    if rest = argument then complain (shown ++ Bytes.ofString ": expected a numeric value")
    else complain (shown ++ Bytes.ofString ": value not completely converted")

/-- The code of the byte behind a quote; what comes behind it does not count. -/
def quoted? (argument : Bytes) : Tool (Option Nat) := do
  match argument with
  | 0x22 :: b :: rest | 0x27 :: b :: rest =>
    if rest ≠ [] then
      warn (Bytes.ofString "warning: " ++ rest ++ Bytes.ofString
        ": character(s) following character constant have been ignored")
    return some b.toNat
  | _ => return none

/-- A whole number that an argument says. -/
def wholeNumber (argument : Bytes) (isHeld : Int → Bool) : Tool Int := do
  match ← quoted? argument with
  | some code => return code
  | none =>
    let (value, rest) := (Shell.Arithmetic.integer? argument).getD (0, argument)
    check argument rest (!isHeld value)
    return value

/-- How many numbers a machine can hold. -/
def range : Int := twoTo 64

/-- A number with a sign, as a machine holds it. -/
def signedNumber (argument : Bytes) : Tool Int := do
  let least : Int := -(twoTo 63 : Int)
  let greatest : Int := (twoTo 63 : Int) - 1
  let value ← wholeNumber argument fun value => least ≤ value && value ≤ greatest
  return max least (min greatest value)

/-- A number without a sign, as a machine holds it; a negative one is wrapped around. -/
def unsignedNumber (argument : Bytes) : Tool Nat := do
  let value ← wholeNumber argument fun value => -range < value && value < range
  return if -range < value && value < range then (value % range).toNat else (range - 1).toNat

/-- A number with a fraction that an argument says. -/
def realNumber (argument : Bytes) : Tool Binary := do
  match ← quoted? argument with
  | some code => return Binary.ofInt .extended code
  | none =>
    let reading :=
      (Reading.ofBytes? .extended argument).getD ⟨.finite false 0 0, argument, false⟩
    check argument reading.rest reading.isBeyond
    return reading.number

/-- Digits of a base in front, at most so many. -/
def digitsOf (base : Nat) (most : Nat) (text : Bytes) : Bytes :=
  (text.take most).takeWhile fun b => (Text.Ascii.hexDigit? b).any (· < base)

/-- The number that digits say. -/
def number (base : Nat) (digits : Bytes) : Nat :=
  (digits.filterMap Text.Ascii.hexDigit?).foldl (fun value digit => value * base + digit) 0

/-- Puts out the character of a code, or how it is written where it is none of the first ones. -/
def putCharacter (digits : Bytes) : Tool Unit := do
  let code := number 16 digits
  if code < 0x80 then put [UInt8.ofNat code]
  else
    let width := if code < 0x10000 then 4 else 8
    let text := Directive.digitsOf 16 code
    let text := List.replicate (width - text.length) (ascii '0') ++ text.map Text.Ascii.upper
    let sign := if width = 4 then ascii 'u' else ascii 'U'
    put (ascii '\\' :: sign :: text)

/-- Puts out what a backslash and what comes behind it stand for; how many bytes behind it that
takes. In arguments a zero can stand in front of octal digits. -/
def sequence (inArgument : Bool) (rest : Bytes) : Tool Nat := do
  match rest with
  | [] =>
    put [ascii '\\']
    return 0
  | b :: more =>
    if b = ascii 'c' then finish 0
    else if b = ascii 'x' then
      let digits := digitsOf 16 2 more
      if digits = [] then failWith 1 (Bytes.ofString "missing hexadecimal number in escape")
      else
        put [UInt8.ofNat (number 16 digits)]
        return digits.length + 1
    else if Text.Ascii.isOctal b then
      let skips := inArgument && b = ascii '0'
      let digits := digitsOf 8 3 (if skips then more else rest)
      put [UInt8.ofNat (number 8 digits)]
      return digits.length + if skips then 1 else 0
    else if b = ascii 'u' || b = ascii 'U' then
      let width := if b = ascii 'u' then 4 else 8
      let digits := digitsOf 16 width more
      if digits.length < width then
        failWith 1 (Bytes.ofString "missing hexadecimal number in escape")
      else
        putCharacter digits
        return width + 1
    else
      match Shell.Format.simple? b with
      | some byte => put [byte]
      | none => put (if b = 0x22 then [b] else [ascii '\\', b])
      return 1

/-- Puts out a text with its sequences replaced. `fuel` bounds its length. -/
def putReplaced : Nat → Bytes → Tool Unit
  | 0, _ => pure ()
  | _, [] => pure ()
  | fuel + 1, b :: rest => do
    if b = ascii '\\' then
      let count ← sequence true rest
      putReplaced fuel (rest.drop count)
    else
      put [b]
      putReplaced fuel rest

/-- How an argument is converted: the letters that are still possible, and the layout. -/
structure Conversion where
  directive : Directive
  allowed : List Char

/-- The flags up front. -/
def flags : Conversion → Bytes → Conversion × Bytes
  | conversion, [] => (conversion, [])
  | conversion, b :: rest =>
    let without (letters : List Char) : List Char :=
      conversion.allowed.filter fun c => !letters.contains c
    match conversion.directive.withFlag? b with
    | some directive =>
      let allowed :=
        if b = ascii '#' then without ['c', 'd', 'i', 's', 'u']
        else if b = ascii '0' then without ['c', 's']
        else conversion.allowed
      flags ⟨directive, allowed⟩ rest
    | none =>
      if b = ascii '\'' then
        flags { conversion with
          allowed := without ['a', 'A', 'c', 'e', 'E', 'o', 's', 'x', 'X'] } rest
      else if b = ascii 'I' then
        flags { conversion with
          allowed := without ['a', 'A', 'c', 'e', 'E', 'o', 's', 'x', 'X'] } rest
      else (conversion, b :: rest)

/-- A number up front or, where a star stands there, from the arguments; what follows it, and the
arguments that are left. -/
def bound (what : String) (bytes : Bytes) (arguments : List Bytes) :
    Tool (Option Int × Bytes × List Bytes) := do
  match bytes with
  | 0x2A :: rest =>
    match arguments with
    | [] => return (some 0, rest, [])
    | argument :: arguments =>
      let value ← signedNumber argument
      if (value < -(twoTo 31 : Int) && what ≠ "precision") || (twoTo 31 : Int) ≤ value then
        failWith 1 (Bytes.ofString ("invalid " ++ what ++ ": ") ++ Quotation.cited argument)
      else return (some value, rest, arguments)
  | _ =>
    let digits := bytes.takeWhile Text.Ascii.isDigit
    let value? := if digits = [] then none else some (Int.ofNat (Text.Ascii.value 10 digits))
    return (value?, bytes.drop digits.length, arguments)

/-- Puts out an argument as a letter says. -/
def convert (directive : Directive) (letter : Char) (argument : Bytes) : Tool Unit := do
  if letter = 'c' then put (directive.byte (argument.head?.getD 0))
  else if letter = 's' then put (directive.text argument)
  else if letter = 'd' || letter = 'i' then
    put (directive.signed (← signedNumber argument))
  else if letter = 'o' || letter = 'u' || letter = 'x' || letter = 'X' then
    put (directive.unsigned letter (← unsignedNumber argument))
  else put (directive.real .extended letter (← realNumber argument))

/-- Letters that can end a directive. -/
def letters : List Char :=
  ['a', 'A', 'c', 'd', 'e', 'E', 'f', 'F', 'g', 'G', 'i', 'o', 's', 'u', 'x', 'X']

/-- A directive behind its percent sign; what follows it, and the arguments that are left. -/
def directive (bytes : Bytes) (arguments : List Bytes) : Tool (Bytes × List Bytes) := do
  let (conversion, rest) := flags ⟨.plain, letters⟩ bytes
  let (width?, rest, arguments) ← bound "field width" rest arguments
  let layout := conversion.directive.withWidth (width?.getD 0)
  let (layout, allowed, rest, arguments) ←
    match rest with
    | 0x2E :: rest =>
      let (precision?, rest, arguments) ← bound "precision" rest arguments
      pure (layout.withPrecision (precision?.getD 0), conversion.allowed.filter (· ≠ 'c'), rest,
        arguments)
    | rest => pure (layout, conversion.allowed, rest, arguments)
  let rest := rest.dropWhile fun b => (Bytes.ofString "lLhjtz").contains b
  match rest with
  | [] =>
    failWith 1 (ascii '%' :: bytes ++ Bytes.ofString ": invalid conversion specification")
  | letter :: behind =>
    let c := Char.ofNat letter.toNat
    if !allowed.contains c then
      let written := bytes.take (bytes.length - behind.length)
      failWith 1 (ascii '%' :: written ++ Bytes.ofString ": invalid conversion specification")
    else
      convert layout c (arguments.head?.getD [])
      return (behind, arguments.drop 1)

/-- Goes through a format once; the arguments that are left. `fuel` bounds its length. -/
def once : Nat → Bytes → List Bytes → Tool (List Bytes)
  | 0, _, arguments => return arguments
  | _, [], arguments => return arguments
  | fuel + 1, b :: rest, arguments => do
    if b = ascii '\\' then
      let count ← sequence false rest
      once fuel (rest.drop count) arguments
    else if b = ascii '%' then
      match rest with
      | 0x25 :: rest =>
        put [b]
        once fuel rest arguments
      | 0x62 :: rest =>
        let argument := arguments.head?.getD []
        putReplaced (argument.length + 1) argument
        once fuel rest (arguments.drop 1)
      | 0x71 :: rest =>
        match arguments with
        | [] => once fuel rest []
        | argument :: arguments =>
          put (Quotation.shown argument)
          once fuel rest arguments
      | _ =>
        let (behind, arguments) ← directive rest arguments
        once fuel behind arguments
    else
      put [b]
      once fuel rest arguments

/-- Goes through a format as long as it takes arguments and some are left. -/
def goThrough (format : Bytes) : Nat → List Bytes → Tool Unit
  | 0, _ => pure ()
  | fuel + 1, arguments => do
    let left ← once (format.length + 1) format arguments
    if left ≠ [] && left.length < arguments.length then goThrough format fuel left
    else
      match left with
      | [] => pure ()
      | first :: _ =>
        warn (Bytes.ofString "warning: ignoring excess arguments, starting with "
          ++ Quotation.cited first)

/-- Puts arguments out as a format lays them out. -/
def print (arguments : List Bytes) : Tool Unit := do
  let arguments :=
    if arguments.head? = some (Bytes.ofString "--") then arguments.drop 1 else arguments
  match arguments with
  | [] => misuse 1 (Bytes.ofString "missing operand")
  | format :: arguments => goThrough format (arguments.length + 1) arguments

end ChangelogSql.Utility.Printing
