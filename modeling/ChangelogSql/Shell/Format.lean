import ChangelogSql.Numeral.Directive
import ChangelogSql.Numeral.Reader
import ChangelogSql.Shell.Arithmetic
import ChangelogSql.Text.Search

/-!
Backslash sequences in texts that are put out, and formats that lay out
arguments. A format is gone through again and again until it has used up the
arguments; where there are too few, the rest counts as empty.
-/

namespace ChangelogSql.Shell.Format

open Text (ascii)
open Numeral

/-- The byte that a letter after a backslash stands for. -/
def simple? (b : UInt8) : Option UInt8 :=
  if b = ascii 'a' then some 0x07
  else if b = ascii 'b' then some 0x08
  else if b = ascii 'e' then some 0x1B
  else if b = ascii 'f' then some 0x0C
  else if b = ascii 'n' then some 0x0A
  else if b = ascii 'r' then some 0x0D
  else if b = ascii 't' then some 0x09
  else if b = ascii 'v' then some 0x0B
  else if b = ascii '\\' then some 0x5C
  else none

/-- The byte of up to three octal digits, and how many there are. -/
def octal (rest : Bytes) : UInt8 × Nat :=
  let digits := (rest.take 3).takeWhile Text.Ascii.isOctal
  (UInt8.ofNat (Text.Ascii.value 8 digits), digits.length)

/-- One sequence after its backslash: the byte it stands for and how many bytes it takes. A letter
without a meaning stands for itself and keeps the backslash. -/
def sequence (rest : Bytes) : UInt8 × Nat :=
  match rest with
  | [] => (0x5C, 0)
  | b :: _ =>
    match simple? b with
    | some byte => (byte, 1)
    | none => if Text.Ascii.isOctal b then octal rest else (0x5C, 0)

/-- A text with its sequences replaced, and whether `\c` ended it. A sequence of octal digits may
have one more zero in front. `skip` bytes belong to a sequence that is done. -/
def replacedFrom : Nat → Bytes → Bytes × Bool
  | _, [] => ([], false)
  | skip + 1, _ :: rest => replacedFrom skip rest
  | 0, b :: rest =>
    if b = 0x5C then
      match rest with
      | 0x63 :: _ => ([], true)
      | 0x30 :: digits =>
        let (byte, count) := octal digits
        let (bytes, ended) := replacedFrom (count + 1) rest
        (byte :: bytes, ended)
      | _ =>
        let (byte, count) := sequence rest
        let (others, ended) := replacedFrom count rest
        (byte :: others, ended)
    else
      let (bytes, ended) := replacedFrom 0 rest
      (b :: bytes, ended)

/-- A text with its sequences replaced, and whether it was ended early. -/
def replaced (text : Bytes) : Bytes × Bool :=
  replacedFrom 0 text

/-- Arguments with blanks between them, and a line end unless the first is `-n`. -/
def echoed (arguments : List Bytes) : Bytes :=
  let isQuiet := arguments.head? = some (Bytes.ofString "-n")
  let text := Text.joinWith (ascii ' ') (if isQuiet then arguments.drop 1 else arguments)
  let (text, ended) := replaced text
  if isQuiet || ended then text else text ++ [0x0A]

/-- What has been laid out so far. -/
structure Layout where
  /-- The arguments that are left. -/
  left : List Bytes
  /-- What is put out, the last first. -/
  output : List Bytes
  /-- What there is to complain about, the last first. -/
  complaints : List Bytes

/-- Why a format is not gone through to its end. -/
inductive Ending where
  | stopped
  | failed (text : Bytes)
  deriving DecidableEq

/-- A step in laying out. -/
abbrev Step := ExceptT Ending (StateM Layout)

def put (bytes : Bytes) : Step Unit :=
  modify fun layout => { layout with output := bytes :: layout.output }

def complain (text : Bytes) : Step Unit :=
  modify fun layout => { layout with complaints := text :: layout.complaints }

/-- The next argument, where one is left. -/
def next? : Step (Option Bytes) := do
  let layout ← get
  set { layout with left := layout.left.drop 1 }
  return layout.left.head?

/-- Complains about an argument that is no number, of which `rest` was not read. -/
def check (argument rest : Bytes) (isBeyond : Bool) : Step Unit := do
  if rest ≠ [] then
    if rest = argument then complain (argument ++ Bytes.ofString ": expected numeric value")
    else complain (argument ++ Bytes.ofString ": not completely converted")
  else if isBeyond then
    complain (argument ++ Bytes.ofString ": Numerical result out of range")

/-- The code of the byte behind a quote. -/
def quoted? (argument : Bytes) : Option Nat :=
  match argument with
  | [0x22] | [0x27] => some 0
  | 0x22 :: b :: _ | 0x27 :: b :: _ => some b.toNat
  | _ => none

/-- The next argument as a whole number between two bounds. -/
def wholeNumber (least greatest : Int) : Step Int := do
  match ← next? with
  | none => return 0
  | some argument =>
    match quoted? argument with
    | some code => return code
    | none =>
      let (value, rest) := (Arithmetic.integer? argument).getD (0, argument)
      let bounded := max least (min greatest value)
      check argument rest (bounded ≠ value)
      return bounded

/-- How many numbers 64 bits can hold. -/
def range : Int :=
  Arithmetic.modulus

/-- The next argument as a number with a sign. -/
def signedNumber : Step Int :=
  wholeNumber (-(Arithmetic.largest : Int) - 1) Arithmetic.largest

/-- The next argument as a number without a sign; a negative one is wrapped around. -/
def unsignedNumber : Step Nat := do
  let value ← wholeNumber (-(range - 1)) (range - 1)
  return (value % range).toNat

/-- The next argument as a number with a fraction. -/
def realNumber : Step Binary := do
  match ← next? with
  | none => return .finite false 0 0
  | some argument =>
    match quoted? argument with
    | some code => return Binary.ofInt .double code
    | none =>
      let reading := (Reading.ofBytes? .double argument).getD ⟨.finite false 0 0, argument, false⟩
      check argument reading.rest reading.isBeyond
      return reading.number

/-- The flags up front. -/
def flags : Directive → Bytes → Directive × Bytes
  | directive, [] => (directive, [])
  | directive, b :: rest =>
    match directive.withFlag? b with
    | some directive => flags directive rest
    | none => (directive, b :: rest)

/-- A number up front, or one that a star takes from the arguments, and what follows it. -/
def bound (bytes : Bytes) : Step (Option Int × Bytes) := do
  match bytes with
  | 0x2A :: rest => return (some ((← signedNumber).bmod 0x100000000), rest)
  | _ =>
    let digits := bytes.takeWhile Text.Ascii.isDigit
    let value? := if digits = [] then none else some (Int.ofNat (Text.Ascii.value 10 digits))
    return (value?, bytes.drop digits.length)

/-- A directive after its percent sign, and what follows it. -/
def directive (bytes : Bytes) : Step (Directive × Bytes) := do
  let (directive, rest) := flags .plain bytes
  let (width?, rest) ← bound rest
  let directive := directive.withWidth (width?.getD 0)
  match rest with
  | 0x2E :: rest =>
    let (precision?, rest) ← bound rest
    return (directive.withPrecision (precision?.getD 0), rest)
  | _ => return (directive, rest)

/-- Lays out the next argument. `written` is the directive as it is written. -/
def convert (directive : Directive) (letter : UInt8) (written : Bytes) : Step Unit := do
  let c := Char.ofNat letter.toNat
  if c = 'b' then
    let (text, ended) := replaced ((← next?).getD [])
    put (directive.text text)
    if ended then throw .stopped
  else if c = 'c' then
    put (directive.byte (((← next?).getD []).head?.getD 0))
  else if c = 's' then
    put (directive.text ((← next?).getD []))
  else if c = 'd' || c = 'i' then
    put (directive.signed (← signedNumber))
  else if c = 'o' || c = 'u' || c = 'x' || c = 'X' then
    put (directive.unsigned c (← unsignedNumber))
  else if ['a', 'A', 'e', 'E', 'f', 'F', 'g', 'G'].contains c then
    put (directive.real .double c (← realNumber))
  else throw (.failed (written ++ Bytes.ofString ": invalid directive"))

/-- Goes through a format once. `fuel` bounds its length. -/
def once : Nat → Bytes → Step Unit
  | 0, _ => return ()
  | _, [] => return ()
  | fuel + 1, b :: rest => do
    if b = ascii '\\' then
      let (byte, count) := sequence rest
      put [byte]
      once fuel (rest.drop count)
    else if b = ascii '%' then
      match rest with
      | 0x25 :: rest =>
        put [b]
        once fuel rest
      | _ =>
        let (directive, behind) ← directive rest
        match behind with
        | [] => throw (.failed (Bytes.ofString "missing format character"))
        | letter :: further =>
          let written := b :: rest.take (rest.length - further.length)
          convert directive letter written
          once fuel further
    else
      let run := (b :: rest).takeWhile fun b => b ≠ ascii '\\' && b ≠ ascii '%'
      put run
      once fuel ((b :: rest).drop run.length)

/-- Goes through a format as long as it takes arguments and some are left. -/
def formatted : Nat → Bytes → Step Unit
  | 0, _ => return ()
  | fuel + 1, format => do
    let before := (← get).left.length
    once format.length format
    let left := (← get).left.length
    if left ≠ 0 && left < before then
      formatted fuel format

/-- The arguments laid out as a format says: what is put out, what there is to complain about, and
why it ended early. -/
def printed (format : Bytes) (arguments : List Bytes) : Bytes × List Bytes × Option Ending :=
  let (result, layout) := (formatted (arguments.length + 1) format).run.run ⟨arguments, [], []⟩
  let ending? :=
    match result with
    | .ok () => none
    | .error ending => some ending
  (layout.output.reverse.flatten, layout.complaints.reverse, ending?)

end ChangelogSql.Shell.Format
