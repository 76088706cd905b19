import ChangelogSql.Numeral.Binary

/-!
Numbers as they are written: in decimal or hexadecimal, with a point and an
exponent or without, or as words. What is read is the longest beginning that
writes a number.
-/

namespace ChangelogSql.Numeral

open Text (ascii)

/-- A number that has been read, and what follows it. -/
structure Reading where
  number : Binary
  rest : Bytes
  /-- The number that was written is too large or too small to be held. -/
  isBeyond : Bool
  deriving Inhabited

namespace Reading

/-- Digits up front, with a point somewhere in them or not: their values without the point, how many
of them stand behind it, and what follows. -/
def digits (isDigit : UInt8 → Bool) (bytes : Bytes) : Bytes × Nat × Bytes :=
  let whole := bytes.takeWhile isDigit
  match bytes.drop whole.length with
  | 0x2E :: rest =>
    let fraction := rest.takeWhile isDigit
    if whole = [] && fraction = [] then ([], 0, bytes)
    else (whole ++ fraction, fraction.length, rest.drop fraction.length)
  | rest => (whole, 0, rest)

/-- An exponent behind a letter, and what follows it; without digits there is none. -/
def exponent (small : Char) (bytes : Bytes) : Int × Bytes :=
  match bytes with
  | [] => (0, [])
  | letter :: rest =>
    if Text.Ascii.lower letter ≠ ascii small then (0, bytes)
    else
      let isNegative := rest.head? = some (ascii '-')
      let body := if isNegative || rest.head? = some (ascii '+') then rest.drop 1 else rest
      let run := body.takeWhile Text.Ascii.isDigit
      if run = [] then (0, bytes)
      else
        let value : Int := min (Text.Ascii.value 10 (run.dropWhile (· = ascii '0') |>.take 9)) 999999
        let value := if (run.dropWhile (· = ascii '0')).length > 9 then 999999 else value
        (if isNegative then -value else value, body.drop run.length)

/-- The reading of a number that is a quotient. -/
def ofQuotient (width : Width) (isNegative : Bool) (dividend divisor : Nat) (rest : Bytes) :
    Reading :=
  let number := Binary.ofQuotient width isNegative dividend divisor
  let isBeyond :=
    match number with
    | .finite _ mantissa exponent =>
      dividend ≠ 0 && mantissa.log2 + 1 < width.digits && exponent = width.least
        && (let (p, q) := number.magnitude
            p * divisor ≠ dividend * q)
    | _ => true
  ⟨number, rest, isBeyond⟩

/-- A number in hexadecimal after its mark. -/
def hexadecimal? (width : Width) (isNegative : Bool) (bytes : Bytes) : Option Reading :=
  let (run, places, rest) := digits (fun b => (Text.Ascii.hexDigit? b).isSome) bytes
  if run = [] then none
  else
    let (power, rest) := exponent 'p' rest
    let value := (run.filterMap Text.Ascii.hexDigit?).foldl (fun value digit => value * 16 + digit) 0
    let power := power - 4 * (places : Int)
    if value = 0 then some ⟨.finite isNegative 0 0, rest, false⟩
    else if 40000 < power then some ⟨.infinite isNegative, rest, true⟩
    else if power < -4 * (run.length : Int) - 40000 then
      some ⟨.finite isNegative 0 0, rest, true⟩
    else
      let (dividend, divisor) := shifted value power
      some (ofQuotient width isNegative dividend divisor rest)

/-- A number in decimal. -/
def decimal? (width : Width) (isNegative : Bool) (bytes : Bytes) : Option Reading :=
  let (run, places, rest) := digits Text.Ascii.isDigit bytes
  if run = [] then none
  else
    let (power, rest) := exponent 'e' rest
    let value := Text.Ascii.value 10 run
    let power := power - (places : Int)
    if value = 0 then some ⟨.finite isNegative 0 0, rest, false⟩
    else if 10000 < power then some ⟨.infinite isNegative, rest, true⟩
    else if power < -(run.length : Int) - 10000 then some ⟨.finite isNegative 0 0, rest, true⟩
    else
      let (dividend, divisor) := scaled value power
      some (ofQuotient width isNegative dividend divisor rest)

/-- A text begins with a word, in capital letters or not. -/
def beginsWith (word : String) (bytes : Bytes) : Bool :=
  (Bytes.ofString word).isPrefixOf (bytes.map Text.Ascii.lower)

/-- A number that is a word. -/
def word? (isNegative : Bool) (bytes : Bytes) : Option Reading :=
  if beginsWith "infinity" bytes then some ⟨.infinite isNegative, bytes.drop 8, false⟩
  else if beginsWith "inf" bytes then some ⟨.infinite isNegative, bytes.drop 3, false⟩
  else if beginsWith "nan" bytes then
    let rest := bytes.drop 3
    match rest with
    | 0x28 :: inner =>
      let run := inner.takeWhile Text.Ascii.isNameByte
      match inner.drop run.length with
      | 0x29 :: behind => some ⟨.undefined isNegative, behind, false⟩
      | _ => some ⟨.undefined isNegative, rest, false⟩
    | _ => some ⟨.undefined isNegative, rest, false⟩
  else none

/-- A number without its sign. -/
def unsigned? (width : Width) (isNegative : Bool) (bytes : Bytes) : Option Reading :=
  match bytes with
  | 0x30 :: 0x78 :: rest | 0x30 :: 0x58 :: rest =>
    match hexadecimal? width isNegative rest with
    | some reading => some reading
    | none => some ⟨.finite isNegative 0 0, bytes.drop 1, false⟩
  | _ =>
    match decimal? width isNegative bytes with
    | some reading => some reading
    | none => word? isNegative bytes

/-- The number up front, behind blanks and a sign. -/
def ofBytes? (width : Width) (bytes : Bytes) : Option Reading :=
  match bytes.dropWhile Text.Ascii.isSpace with
  | 0x2D :: rest => unsigned? width true rest
  | 0x2B :: rest => unsigned? width false rest
  | rest => unsigned? width false rest

end Reading

end ChangelogSql.Numeral
