import ChangelogSql.Numeral.Reader
import ChangelogSql.Utility.Input
import ChangelogSql.Utility.Option

/-!
The programs for which the order of lines matters: one that puts lines in order,
one that leaves out lines like the one before, and one that compares two files
in order.
-/

namespace ChangelogSql.Utility.Sorting

open Text (ascii)
open Files Kernel
open Tool

/-- How keys are compared. -/
structure Manner where
  isReversed : Bool
  /-- By the numbers they begin with. -/
  asNumbers : Bool
  /-- By numbers with exponents. -/
  asReals : Bool
  /-- By numbers with units. -/
  asSizes : Bool
  asMonths : Bool
  asVersions : Bool
  foldsCase : Bool
  onlyWords : Bool
  onlyVisible : Bool
  skipsFirst : Bool
  skipsLast : Bool
  deriving DecidableEq

/-- Keys are compared byte by byte. -/
def Manner.plain : Manner :=
  ⟨false, false, false, false, false, false, false, false, false, false, false⟩

/-- The manner with what a letter says. -/
def Manner.with? (manner : Manner) (letter : UInt8) (isFirst : Bool) : Option Manner :=
  match Char.ofNat letter.toNat with
  | 'r' => some { manner with isReversed := true }
  | 'n' => some { manner with asNumbers := true }
  | 'g' => some { manner with asReals := true }
  | 'h' => some { manner with asSizes := true }
  | 'M' => some { manner with asMonths := true }
  | 'V' => some { manner with asVersions := true }
  | 'f' => some { manner with foldsCase := true }
  | 'd' => some { manner with onlyWords := true }
  | 'i' => some { manner with onlyVisible := true }
  | 'b' => some (if isFirst then { manner with skipsFirst := true } else { manner with skipsLast := true })
  | _ => none

/-- A part of a line by which lines are put in order. -/
structure Key where
  /-- The fields and bytes that lie before it. -/
  field : Nat
  offset : Nat
  /-- The last field that belongs to it, and how many bytes of that; none mean all. -/
  last? : Option (Nat × Nat)
  manner : Manner
  /-- The manner is its own. -/
  isOwn : Bool

/-- The number at the beginning of a field specification, or why there is none. -/
def count (what : String) (text : Bytes) : Except Bytes (Nat × Bytes) :=
  let digits := text.takeWhile Text.Ascii.isDigit
  if digits = [] then
    .error (Bytes.ofString (what ++ ": invalid count at start of ") ++ Quotation.cited text)
  else .ok (Text.Ascii.value 10 digits, text.drop digits.length)

/-- The manner that letters say, and what follows them. -/
def letters (isFirst : Bool) : Bytes → Manner → Bool → Manner × Bool × Bytes
  | [], manner, isOwn => (manner, isOwn, [])
  | letter :: rest, manner, isOwn =>
    match manner.with? letter isFirst with
    | some manner => letters isFirst rest manner true
    | none => (manner, isOwn, letter :: rest)

/-- The key that a text lays down. -/
def Key.ofText (text : Bytes) : Except Bytes Key := do
  let refuse {α : Type} (what : String) : Except Bytes α :=
    .error (Bytes.ofString (what ++ ": invalid field specification ") ++ Quotation.cited text)
  let (field, rest) ← count "invalid number at field start" text
  if field = 0 then refuse "field number is zero"
  let (offset, rest) ←
    match rest with
    | 0x2E :: rest => do
      let (offset, rest) ← count "invalid number after '.'" rest
      if offset = 0 then refuse "character offset is zero"
      pure (offset - 1, rest)
    | rest => pure (0, rest)
  let (manner, isOwn, rest) := letters true rest .plain false
  match rest with
  | [] => return ⟨field - 1, offset, none, manner, isOwn⟩
  | 0x2C :: rest =>
    let (last, rest) ← count "invalid number after ','" rest
    if last = 0 then refuse "field number is zero"
    let (length, rest) ←
      match rest with
      | 0x2E :: rest => count "invalid number after '.'" rest
      | rest => pure (0, rest)
    let (manner, isOwn, rest) := letters false rest manner isOwn
    if rest ≠ [] then refuse "stray character in field spec"
    return ⟨field - 1, offset, some (last - 1, length), manner, isOwn⟩
  | _ => refuse "stray character in field spec"

def isBlank (b : UInt8) : Bool :=
  b = ascii ' ' || b = ascii '\t' || b = 0x0A

/-- How many bytes so many fields take. -/
def fieldsLength (tab? : Option UInt8) : Nat → Bytes → Nat
  | 0, _ => 0
  | count + 1, line =>
    match tab? with
    | some tab =>
      let field := (line.takeWhile (· ≠ tab)).length
      if line.length ≤ field then field
      else field + 1 + fieldsLength tab? count (line.drop (field + 1))
    | none =>
      let blanks := (line.takeWhile isBlank).length
      let ink := ((line.drop blanks).takeWhile fun b => !isBlank b).length
      if blanks + ink = 0 then 0
      else blanks + ink + fieldsLength tab? count (line.drop (blanks + ink))

/-- The part of a line that a key means. -/
def Key.of (key : Key) (tab? : Option UInt8) (line : Bytes) : Bytes :=
  let start := fieldsLength tab? key.field line
  let start :=
    if key.manner.skipsFirst then start + ((line.drop start).takeWhile isBlank).length else start
  let start := min line.length (start + key.offset)
  let stop :=
    match key.last? with
    | none => line.length
    | some (last, 0) =>
      let before := fieldsLength tab? last line
      let rest := line.drop before
      match tab? with
      | some tab => before + (rest.takeWhile (· ≠ tab)).length
      | none => before + fieldsLength none 1 rest
    | some (last, length) =>
      let begin' := fieldsLength tab? last line
      let begin' :=
        if key.manner.skipsLast then begin' + ((line.drop begin').takeWhile isBlank).length
        else begin'
      min line.length (begin' + length)
  (line.take stop).drop start

/-- The order of two texts, byte by byte. -/
def compareBytes : Bytes → Bytes → Ordering
  | [], [] => .eq
  | [], _ :: _ => .lt
  | _ :: _, [] => .gt
  | a :: rest, b :: others => if a < b then .lt else if b < a then .gt else compareBytes rest others

/-- The number that a text begins with: whether it is negative, the digits before the point without
zeros in front, and those behind it without zeros at the end. -/
def numberOf (text : Bytes) : Bool × Bytes × Bytes :=
  let text := text.dropWhile isBlank
  let isNegative := text.head? = some (ascii '-')
  let text := if isNegative then text.drop 1 else text
  let whole := text.takeWhile Text.Ascii.isDigit
  let fraction :=
    match text.drop whole.length with
    | 0x2E :: rest => rest.takeWhile Text.Ascii.isDigit
    | _ => []
  let whole := whole.dropWhile (· = ascii '0')
  let fraction := (fraction.reverse.dropWhile (· = ascii '0')).reverse
  (isNegative && !(whole = [] && fraction = []), whole, fraction)

/-- The order of two texts by the numbers they begin with. -/
def compareNumbers (text other : Bytes) : Ordering :=
  let (isNegative, whole, fraction) := numberOf text
  let (isNegative', whole', fraction') := numberOf other
  let magnitude :=
    ((compare whole.length whole'.length).then (compareBytes whole whole')).then
      (compareBytes fraction fraction')
  match isNegative, isNegative' with
  | false, true => .gt
  | true, false => .lt
  | false, false => magnitude
  | true, true => magnitude.swap

/-- The rank of a unit of size. -/
def unitRank (text : Bytes) : Nat :=
  let text := text.dropWhile isBlank
  let text := if text.head? = some (ascii '-') then text.drop 1 else text
  let rest := text.dropWhile fun b => Text.Ascii.isDigit b || b = ascii '.'
  match rest.head?.map fun b => Char.ofNat b.toNat with
  | some 'K' | some 'k' => 1
  | some 'M' => 2
  | some 'G' => 3
  | some 'T' => 4
  | some 'P' => 5
  | some 'E' => 6
  | _ => 0

/-- The order of two texts by numbers with units. -/
def compareSizes (text other : Bytes) : Ordering :=
  let (isNegative, whole, fraction) := numberOf text
  let (isNegative', whole', fraction') := numberOf other
  let rank (isZero : Bool) (text : Bytes) : Nat := if isZero then 0 else unitRank text
  let magnitude :=
    (compare (rank (whole = [] && fraction = []) text)
      (rank (whole' = [] && fraction' = []) other)).then
      (((compare whole.length whole'.length).then (compareBytes whole whole')).then
        (compareBytes fraction fraction'))
  match isNegative, isNegative' with
  | false, true => .gt
  | true, false => .lt
  | false, false => magnitude
  | true, true => magnitude.swap

/-- The number of the month that a text names with three letters, or zero. -/
def monthOf (text : Bytes) : Nat :=
  let name := ((text.dropWhile isBlank).take 3).map Text.Ascii.upper
  let names := ["JAN", "FEB", "MAR", "APR", "MAY", "JUN", "JUL", "AUG", "SEP", "OCT", "NOV", "DEC"]
  match names.findIdx? fun month => Bytes.ofString month = name with
  | some place => place + 1
  | none => 0

/-- The rank of a byte in versions: a tilde comes before everything, then the end, letters, and
other signs. -/
def versionRank (b : UInt8) : Nat :=
  if b = ascii '~' then 0
  else if Text.Ascii.isDigit b then 1
  else if Text.Ascii.isLetter b then 2 + b.toNat
  else 300 + b.toNat

/-- The order of two versions: signs byte by byte, and digits by the numbers they form. `fuel` bounds
how many runs there are. -/
def compareVersions : Nat → Bytes → Bytes → Ordering
  | 0, _, _ => .eq
  | fuel + 1, text, other =>
    if text = [] && other = [] then .eq
    else
      let signs (text : Bytes) : Bytes := text.takeWhile fun b => !Text.Ascii.isDigit b
      let (here, there) := (signs text, signs other)
      let ranks (signs : Bytes) : List Nat := signs.map versionRank ++ [1]
      let rec compareRanks : List Nat → List Nat → Ordering
        | a :: rest, b :: others => (compare a b).then (compareRanks rest others)
        | _, _ => .eq
      let (text, other) := (text.drop here.length, other.drop there.length)
      let digits (text : Bytes) : Bytes := text.takeWhile Text.Ascii.isDigit
      let (number, number') := (digits text, digits other)
      ((compareRanks (ranks here) (ranks there)).then
        (compare (Text.Ascii.value 10 number) (Text.Ascii.value 10 number'))).then
        (compareVersions fuel (text.drop number.length) (other.drop number'.length))

/-- The order of two keys. -/
def Manner.compare (manner : Manner) (text other : Bytes) : Ordering :=
  let kept (text : Bytes) : Bytes :=
    let text :=
      if manner.onlyWords then
        text.filter fun b => isBlank b || Text.Ascii.isLetter b || Text.Ascii.isDigit b
      else text
    let text := if manner.onlyVisible then text.filter fun b => 0x20 ≤ b && b ≤ 0x7E else text
    if manner.foldsCase then text.map Text.Ascii.upper else text
  let order :=
    if manner.asNumbers then compareNumbers text other
    else if manner.asSizes then compareSizes text other
    else if manner.asMonths then Ord.compare (monthOf text) (monthOf other)
    else if manner.asVersions then
      compareVersions (text.length + other.length + 1) text other
    else if manner.asReals then
      let read (text : Bytes) : Option Numeral.Reading := Numeral.Reading.ofBytes? .extended text
      match read text, read other with
      | none, none => .eq
      | none, some _ => .lt
      | some _, none => .gt
      | some a, some b =>
        if a.number.less b.number then .lt else if b.number.less a.number then .gt else .eq
    else compareBytes (kept text) (kept other)
  if manner.isReversed then order.swap else order

/-- How lines are put in order. -/
structure Order where
  keys : List Key
  tab? : Option UInt8
  /-- Lines with the same keys are compared as a whole. -/
  hasLast : Bool
  isReversed : Bool

/-- The order of two lines. -/
def Order.compare (order : Order) (line other : Bytes) : Ordering :=
  let byKeys := order.keys.foldl
    (fun result key =>
      result.then (key.manner.compare (key.of order.tab? line) (key.of order.tab? other)))
    Ordering.eq
  let whole := compareBytes line other
  byKeys.then (if order.hasLast then (if order.isReversed then whole.swap else whole) else .eq)

/-- The lines of a text. -/
def linesOf (ending : UInt8) (bytes : Bytes) : List Bytes :=
  let lines := Text.splitAt ending bytes
  if lines.getLast? = some [] then lines.dropLast else lines

/-- Lines without those that are like the one before. -/
def withoutRepeats (isSame : Bytes → Bytes → Bool) : List Bytes → List Bytes
  | [] => []
  | line :: rest => line :: go line rest
where
  go (before : Bytes) : List Bytes → List Bytes
    | [] => []
    | line :: rest => if isSame before line then go before rest else line :: go line rest

/-- The first line that is out of order, with its number. -/
def disorder? (isFine : Bytes → Bytes → Bool) : Nat → List Bytes → Option (Nat × Bytes)
  | number, line :: next :: rest =>
    if isFine line next then disorder? isFine (number + 1) (next :: rest)
    else some (number + 1, next)
  | _, _ => none

/-- The options. -/
def forms : List Form :=
  [toggle "b" ["ignore-leading-blanks"], toggle "d" ["dictionary-order"],
    toggle "f" ["ignore-case"], toggle "g" ["general-numeric-sort"],
    toggle "i" ["ignore-nonprinting"], toggle "M" ["month-sort"],
    toggle "h" ["human-numeric-sort"], toggle "n" ["numeric-sort"], toggle "R" ["random-sort"],
    toggle "r" ["reverse"], toggle "V" ["version-sort"], setting "sort" ["sort"],
    ⟨"check", ["check"], .perhaps⟩, toggle "c", toggle "C", setting "k" ["key"],
    toggle "m" ["merge"], setting "o" ["output"], toggle "s" ["stable"],
    setting "S" ["buffer-size"], setting "t" ["field-separator"],
    setting "T" ["temporary-directory"], setting "parallel" ["parallel"], toggle "u" ["unique"],
    toggle "z" ["zero-terminated"], toggle "debug" ["debug"]]

/-- What files hold, one after the other; a file that cannot be read ends the program. -/
def readAllOf (paths : List Bytes) (cannotOpen : String) : Tool (List Bytes) := do
  let mut parts : List Bytes := []
  for path in if paths.isEmpty then [[ascii '-']] else paths do
    match ← openInput path with
    | .error fault =>
      failWith 2 (Bytes.ofString (cannotOpen ++ ": ") ++ Quotation.shown path
        ++ Bytes.ofString (": " ++ fault.reason))
    | .ok descriptor =>
      match ← readAll descriptor with
      | .error fault =>
        failWith 2 (Bytes.ofString "read failed: " ++ Quotation.shown path
          ++ Bytes.ofString (": " ++ fault.reason))
      | .ok bytes => parts := bytes :: parts
      closeInput descriptor
  return parts.reverse

/-- Puts lines in order. -/
def sort (arguments : List Bytes) : Tool Unit := do
  whenUnheard fun reason => (2, ["fflush failed: 'standard output': " ++ reason, "write error"])
  let given ← options forms arguments 2
  let global : Manner := given.options.foldl
    (fun manner entry =>
      match Bytes.ofString entry.1 with
      | [letter] =>
        if letter = ascii 'b' then { manner with skipsFirst := true, skipsLast := true }
        else (manner.with? letter true).getD manner
      | _ =>
        match entry with
        | ("sort", some word) =>
          match Bytes.shown word with
          | "numeric" => { manner with asNumbers := true }
          | "general-numeric" => { manner with asReals := true }
          | "human-numeric" => { manner with asSizes := true }
          | "month" => { manner with asMonths := true }
          | "version" => { manner with asVersions := true }
          | _ => manner
        | _ => manner)
    .plain
  let texts := given.options.filterMap fun entry => if entry.1 = "k" then entry.2 else none
  let keys ← texts.mapM fun text => do
    match Key.ofText text with
    | .ok key => return key
    | .error text => failWith 2 text
  let keys := keys.map fun key => if key.isOwn then key else { key with manner := global }
  let isPlain := { global with isReversed := false } = Manner.plain
  let keys :=
    if keys.isEmpty && !isPlain then [⟨0, 0, none, global, true⟩] else keys
  let tab? ←
    match given.value? "t" with
    | none => pure none
    | some [] => failWith 2 (Bytes.ofString "empty tab")
    | some [tab] => pure (some tab)
    | some [0x5C, 0x30] => pure (some 0)
    | some text => failWith 2 (Bytes.ofString "multi-character tab " ++ Quotation.cited text)
  let order : Order := ⟨keys, tab?, keys.isEmpty || !(given.has "s" || given.has "u"), global.isReversed⟩
  let ending : UInt8 := if given.has "z" then 0 else 0x0A
  let checks := given.has "c" || given.has "C" || given.has "check"
  let isMute := given.has "C" || given.value? "check" = some (Bytes.ofString "quiet")
    || given.value? "check" = some (Bytes.ofString "silent")
  if checks then
    match given.operands with
    | _ :: other :: _ =>
      failWith 2 (Bytes.ofString "extra operand " ++ Quotation.cited other
        ++ Bytes.ofString " not allowed with -c")
    | _ => pure ()
    let lines := linesOf ending (← readAllOf given.operands "open failed").flatten
    let isFine (line next : Bytes) : Bool :=
      match order.compare line next with
      | .lt => true
      | .eq => !given.has "u"
      | .gt => false
    match disorder? isFine 1 lines with
    | none => return ()
    | some (number, line) =>
      let name := given.operands.headD [ascii '-']
      unless isMute do
        warn (name ++ Bytes.ofString ":" ++ Text.Ascii.ofNat number
          ++ Bytes.ofString ": disorder: " ++ line)
      setCode 1
  else
    let parts ← readAllOf given.operands "cannot read"
    let lines := parts.flatMap (linesOf ending)
    let sorted := lines.mergeSort fun line other => order.compare line other ≠ .gt
    let sorted :=
      if given.has "u" then withoutRepeats (fun line other => order.compare line other = .eq) sorted
      else sorted
    let output := sorted.flatMap fun line => line ++ [ending]
    match given.value? "o" with
    | none => put output
    | some path =>
      match ← ask (Kernel.Request.openPath ⟨path⟩ Purpose.writing 0o666) with
      | .ok descriptor =>
        let _ ← perform (Activity.write descriptor output)
        closeInput descriptor
      | .error fault =>
        failWith 2 (Bytes.ofString "open failed: " ++ Quotation.shown path
          ++ Bytes.ofString (": " ++ fault.reason))

/-- Lines like one another, and how many there are. -/
structure Group where
  first : Bytes
  others : List Bytes

/-- Lines in groups of those that are alike. -/
def groupsOf (isSame : Bytes → Bytes → Bool) : List Bytes → List Group
  | [] => []
  | line :: rest =>
    match groupsOf isSame rest with
    | [] => [⟨line, []⟩]
    | group :: groups =>
      if isSame line group.first then ⟨line, group.first :: group.others⟩ :: groups
      else ⟨line, []⟩ :: group :: groups

/-- The number that is the value of an option. -/
def numberAt (given : Given) (key words : String) : Tool (Option Nat) := do
  match given.value? key with
  | none => return none
  | some text =>
    match Text.Ascii.decimal? text with
    | some number => return some number
    | none => failWith 1 (text ++ Bytes.ofString (": " ++ words))

/-- Leaves out lines like the one before. -/
def unique (arguments : List Bytes) : Tool Unit := do
  let given ← options [toggle "c" ["count"], toggle "d" ["repeated"], toggle "D",
    ⟨"all-repeated", ["all-repeated"], .perhaps⟩, setting "f" ["skip-fields"],
    toggle "i" ["ignore-case"], setting "s" ["skip-chars"], toggle "u" ["unique"],
    toggle "z" ["zero-terminated"], setting "w" ["check-chars"]] arguments 1
  let fields := (← numberAt given "f" "invalid number of fields to skip").getD 0
  let skipped := (← numberAt given "s" "invalid number of bytes to skip").getD 0
  let width? ← numberAt given "w" "invalid number of bytes to compare"
  match given.operands with
  | _ :: _ :: other :: _ => misuse 1 (Bytes.ofString "extra operand " ++ Quotation.cited other)
  | _ => pure ()
  let path := given.operands.headD [ascii '-']
  let ending : UInt8 := if given.has "z" then 0 else 0x0A
  match ← openInput path with
  | .error fault => failWith 1 (Quotation.shown path ++ Bytes.ofString (": " ++ fault.reason))
  | .ok descriptor =>
    let bytes ←
      match ← readAll descriptor with
      | .ok bytes => pure bytes
      | .error fault =>
        failWith 1 (Bytes.ofString "error reading " ++ Quotation.quoted path
          ++ Bytes.ofString (": " ++ fault.reason))
    let shown (line : Bytes) : Bytes :=
      let line := (line.drop (fieldsLength none fields line)).drop skipped
      let line := match width? with
        | some width => line.take width
        | none => line
      if given.has "i" then line.map Text.Ascii.lower else line
    let groups := groupsOf (fun line other => shown line = shown other) (linesOf ending bytes)
    let showsAll := given.has "D" || given.has "all-repeated"
    let mut output : List Bytes := []
    for group in groups do
      let isSingle := group.others.isEmpty
      if showsAll then
        if !isSingle then
          output := (group.first :: group.others).foldl
            (fun output line => (line ++ [ending]) :: output) output
      else if !((given.has "d" && isSingle) || (given.has "u" && !isSingle)) then
        let number := toString (group.others.length + 1)
        let front :=
          if given.has "c" then Bytes.ofString ("".pushn ' ' (7 - number.length) ++ number ++ " ")
          else []
        output := (front ++ group.first ++ [ending]) :: output
    let text := output.reverse.flatten
    match given.operands.drop 1 with
    | [] => put text
    | path :: _ =>
      if path = [ascii '-'] then put text
      else
        match ← ask (Kernel.Request.openPath ⟨path⟩ Purpose.writing 0o666) with
        | .ok descriptor =>
          let _ ← perform (Activity.write descriptor text)
        | .error fault => failWith 1 (Quotation.shown path ++ Bytes.ofString (": " ++ fault.reason))

/-- The lines of two files that are in order, in one order: where each of them is. -/
def merged : Nat → List Bytes → List Bytes → List (Nat × Bytes)
  | 0, _, _ => []
  | _, [], others => others.map fun line => (1, line)
  | _, lines, [] => lines.map fun line => (0, line)
  | fuel + 1, line :: rest, other :: others =>
    match compareBytes line other with
    | .lt => (0, line) :: merged fuel rest (other :: others)
    | .gt => (1, other) :: merged fuel (line :: rest) others
    | .eq => (2, line) :: merged fuel rest others

/-- Compares two files that are in order. -/
def common (arguments : List Bytes) : Tool Unit := do
  let given ← options [toggle "1", toggle "2", toggle "3", toggle "check" ["check-order"],
    toggle "nocheck" ["nocheck-order"], setting "output" ["output-delimiter"],
    toggle "total" ["total"], toggle "z" ["zero-terminated"]] arguments 1
  match given.operands with
  | [] => misuse 1 (Bytes.ofString "missing operand")
  | [path] => misuse 1 (Bytes.ofString "missing operand after " ++ Quotation.cited path)
  | [path, other] =>
    let ending : UInt8 := if given.has "z" then 0 else 0x0A
    let read (path : Bytes) : Tool (List Bytes) := do
      match ← openInput path with
      | .error fault => failWith 1 (Quotation.shown path ++ Bytes.ofString (": " ++ fault.reason))
      | .ok descriptor =>
        match ← readAll descriptor with
        | .error fault => failWith 1 (Quotation.shown path ++ Bytes.ofString (": " ++ fault.reason))
        | .ok bytes => return linesOf ending bytes
    let lines ← read path
    let others ← read other
    let gap := (given.value? "output").getD [0x09]
    let shows (column : Nat) : Bool := !given.has (toString (column + 1))
    for (column, line) in merged (lines.length + others.length + 1) lines others do
      if shows column then
        let gaps := ((List.range column).filter shows).length
        put ((List.replicate gaps gap).flatten ++ line ++ [ending])
    let isOrdered (lines : List Bytes) : Bool :=
      (disorder? (fun line next => compareBytes line next ≠ .gt) 1 lines).isNone
    for (number, lines) in [(1, lines), (2, others)] do
      unless isOrdered lines || given.has "nocheck" do
        complain (Bytes.ofString ("file " ++ toString (number : Nat) ++ " is not in sorted order"))
    unless (isOrdered lines && isOrdered others) || given.has "nocheck" do
      complain (Bytes.ofString "input is not in sorted order")
  | _ :: _ :: operand :: _ =>
    misuse 1 (Bytes.ofString "extra operand " ++ Quotation.cited operand)

end ChangelogSql.Utility.Sorting
