import ChangelogSql.Numeral.Directive
import ChangelogSql.Utility.Input
import ChangelogSql.Utility.Option

/-!
The programs that show files: all of them, their beginnings or ends, or how much
is in them.
-/

namespace ChangelogSql.Utility.Show

open Text (ascii)
open Files Kernel
open Tool

/-- How a file is shown in full. -/
structure Manner where
  numbers : Bool
  /-- Only lines with something in them are numbered. -/
  skipsBlank : Bool
  ends : Bool
  tabs : Bool
  invisible : Bool
  squeezes : Bool

/-- Where showing has come to. -/
structure Place where
  number : Nat
  atStart : Bool
  /-- How many blank lines have gone before. -/
  blanks : Nat

/-- A byte as it is shown where nothing is to stay invisible. -/
def visible (manner : Manner) (b : UInt8) : Bytes :=
  let low (b : UInt8) : Bytes :=
    if b < 0x20 then [ascii '^', b + 0x40]
    else if b = 0x7F then [ascii '^', ascii '?']
    else [b]
  if b = 0x09 then (if manner.tabs then [ascii '^', ascii 'I'] else [b])
  else if !manner.invisible then [b]
  else if b < 0x80 then low b
  else [ascii 'M', ascii '-'] ++ low (b - 0x80)

/-- A number in a column of its own. -/
def column (number : Nat) : Bytes :=
  Numeral.Directive.signed { Numeral.Directive.plain with width := 6 } number ++ [0x09]

/-- Bytes as they are shown, and where that leads to. -/
def shown (manner : Manner) : Place → Bytes → List Bytes → Bytes × Place
  | place, [], output => (output.reverse.flatten, place)
  | place, b :: rest, output =>
    if b = 0x0A then
      let isBlank := place.atStart
      if isBlank && manner.squeezes && 1 ≤ place.blanks then
        shown manner { place with blanks := place.blanks + 1 } rest output
      else
        let counts := isBlank && manner.numbers && !manner.skipsBlank
        let lead := if counts then column place.number else []
        let next : Place :=
          { number := if counts then place.number + 1 else place.number
            atStart := true, blanks := if isBlank then place.blanks + 1 else 0 }
        shown manner next rest ((lead ++ (if manner.ends then [ascii '$'] else []) ++ [b]) :: output)
    else
      let counts := place.atStart && manner.numbers
      let lead := if counts then column place.number else []
      let next : Place :=
        ⟨if counts then place.number + 1 else place.number, false, 0⟩
      shown manner next rest ((lead ++ visible manner b) :: output)

/-- How many portions of a file are read at most. -/
def portionLimit : Nat := 1000000

/-- Passes on a file as it is. -/
def pass (path : Bytes) (descriptor : Nat) : Nat → Tool Unit
  | 0 => return ()
  | fuel + 1 => do
    match ← portion descriptor with
    | .error fault => complainOf path fault
    | .ok [] => return ()
    | .ok bytes =>
      match ← perform (Activity.write 1 bytes) with
      | .ok () => pass path descriptor fuel
      | .error fault => fallSilent fault

/-- Shows a file in some manner. -/
def showFrom (manner : Manner) (path : Bytes) (descriptor : Nat) : Nat → Place → Tool Place
  | 0, place => return place
  | fuel + 1, place => do
    match ← portion descriptor with
    | .error fault =>
      complainOf path fault
      return place
    | .ok [] => return place
    | .ok bytes =>
      let (text, place) := shown manner place bytes []
      put text
      flush
      showFrom manner path descriptor fuel place

/-- Shows files one after the other. -/
def concatenate (arguments : List Bytes) : Tool Unit := do
  let given ← options [toggle "A" ["show-all"], toggle "b" ["number-nonblank"], toggle "e",
    toggle "E" ["show-ends"], toggle "n" ["number"], toggle "s" ["squeeze-blank"], toggle "t",
    toggle "T" ["show-tabs"], toggle "u", toggle "v" ["show-nonprinting"]] arguments 1
  let all := given.has "A"
  let manner : Manner :=
    { numbers := given.has "n" || given.has "b", skipsBlank := given.has "b"
      ends := all || given.has "e" || given.has "E", tabs := all || given.has "t" || given.has "T"
      invisible := all || given.has "v" || given.has "e" || given.has "t"
      squeezes := given.has "s" }
  let isPlain := !(manner.numbers || manner.ends || manner.tabs || manner.invisible
    || manner.squeezes)
  let mut place : Place := ⟨1, true, 0⟩
  if !(← isOpen 1) then
    failWith 1 (Bytes.ofString ("standard output: " ++ Fault.badDescriptor.reason))
  let paths := if given.operands.isEmpty then [[ascii '-']] else given.operands
  for path in paths do
    match ← openInput path with
    | .error fault => complainOf path fault
    | .ok descriptor =>
      let isSame ← isSameFile descriptor 1
      if isSame && ((← sizeOf? descriptor).getD 0) ≠ 0 then
        complain (Quotation.shown path ++ Bytes.ofString ": input file is output file")
      else if isPlain then pass path descriptor portionLimit
      else place ← showFrom manner path descriptor portionLimit place
      closeInput descriptor
  if paths.contains [ascii '-'] && !(← isOpen 0) then
    complain (Bytes.ofString ("closing standard input: " ++ Fault.badDescriptor.reason))

/-- Writes the input to files, which have names, and leaves out those that it cannot be written to. -/
def copyAll : Nat → List (Bytes × Nat) → Tool Unit
  | 0, _ => return ()
  | _, [] => return ()
  | fuel + 1, goals => do
    match ← portion 0 with
    | .error fault => complain (Bytes.ofString ("read error: " ++ fault.reason))
    | .ok [] => return ()
    | .ok bytes =>
      let mut left : List (Bytes × Nat) := []
      for (name, descriptor) in goals do
        match ← perform (Activity.write descriptor bytes) with
        | .ok () => left := (name, descriptor) :: left
        | .error fault => complainOf name fault
      copyAll fuel left.reverse

/-- Writes the input to files and passes it on. -/
def tee (arguments : List Bytes) : Tool Unit := do
  let given ← options [toggle "a" ["append"], toggle "i" ["ignore-interrupts"], toggle "p"]
    arguments 1
  let purpose := if given.has "a" then Purpose.appending else Purpose.writing
  let mut goals := [(Bytes.ofString "standard output", 1)]
  for path in given.operands do
    match ← openApart path purpose with
    | .ok descriptor => goals := goals ++ [(path, descriptor)]
    | .error fault => complainOf path fault
  copyAll portionLimit goals

/-- A number with a letter that multiplies it. -/
def count? (text : Bytes) : Option Nat :=
  let digits := text.takeWhile Text.Ascii.isDigit
  if digits = [] then none
  else
    let factor? :=
      match Bytes.shown (text.drop digits.length) with
      | "" => some 1
      | "b" => some 512
      | "kB" | "KB" => some 1000
      | "k" | "K" | "KiB" => some 1024
      | "MB" => some 1000000
      | "M" | "MiB" => some 1048576
      | "GB" => some 1000000000
      | "G" | "GiB" => some 1073741824
      | _ => none
    factor?.map (Text.Ascii.value 10 digits * ·)

/-- How much of a file is shown. -/
structure Extent where
  count : Nat
  inBytes : Bool
  /-- For a beginning: all but so much of the end is shown. For an end: what comes from there on. -/
  isOther : Bool

/-- The line above what is shown of one of several files. -/
def header (isFirst : Bool) (path : Bytes) : Bytes :=
  let name := if path = [ascii '-'] then Bytes.ofString "standard input" else path
  Bytes.ofString (if isFirst then "==> " else "\n==> ") ++ name ++ Bytes.ofString " <==\n"

/-- Lines with the bytes that end them. -/
def linesOf (bytes : Bytes) : List Bytes :=
  let pieces := Text.splitAt 0x0A bytes
  let lines := pieces.dropLast.map (· ++ [0x0A])
  match pieces.getLast? with
  | some (b :: rest) => lines ++ [b :: rest]
  | _ => lines

/-- Shows so many lines. -/
def showLines (descriptor : Nat) : Nat → Tool (Except Fault Unit)
  | 0 => return .ok ()
  | count + 1 => do
    match ← line descriptor with
    | .error fault => return .error fault
    | .ok none => return .ok ()
    | .ok (some (text, isEnded)) =>
      put (if isEnded then text ++ [0x0A] else text)
      showLines descriptor count

/-- Shows so many bytes. -/
def showBytes (descriptor count : Nat) : Nat → Tool (Except Fault Unit)
  | 0 => return .ok ()
  | fuel + 1 => do
    if count = 0 then return .ok ()
    else
      match ← portion descriptor with
      | .error fault => return .error fault
      | .ok [] => return .ok ()
      | .ok bytes =>
        put (bytes.take count)
        setUnread descriptor (bytes.drop count)
        if count < bytes.length then return .ok ()
        else showBytes descriptor (count - bytes.length) fuel

/-- Shows all of a file but its end. -/
def showAllBut (extent : Extent) (descriptor : Nat) : Tool (Except Fault Unit) := do
  match ← readAll descriptor with
  | .error fault => return .error fault
  | .ok bytes =>
    if extent.inBytes then put (bytes.take (bytes.length - extent.count))
    else
      let lines := linesOf bytes
      put (lines.take (lines.length - extent.count)).flatten
    return .ok ()

/-- Shows the end of a file. -/
def showEnd (extent : Extent) (descriptor : Nat) : Tool (Except Fault Unit) := do
  match ← readAll descriptor with
  | .error fault => return .error fault
  | .ok bytes =>
    let parts := if extent.inBytes then bytes.map fun b => [b] else linesOf bytes
    let skipped := if extent.isOther then extent.count - 1 else parts.length - extent.count
    put (parts.drop skipped).flatten
    return .ok ()

/-- Arguments in which a first one that is a dash and digits has been written out. -/
def modern (arguments : List Bytes) : List Bytes :=
  match arguments with
  | (0x2D :: digit :: rest) :: others =>
    let digits := (digit :: rest).takeWhile Text.Ascii.isDigit
    if digits = [] then arguments
    else
      let letters := (digit :: rest).drop digits.length
      let letter := if letters.contains (ascii 'c') then "-c" else "-n"
      let others' := letters.filter fun b => b ≠ ascii 'c' && b ≠ ascii 'n' && b ≠ ascii 'l'
      Bytes.ofString letter :: digits
        :: (if others' = [] then others else (ascii '-' :: others') :: others)
  | arguments => arguments

/-- Shows parts of files; `isEnd` tells which ends are meant. -/
def part (isEnd : Bool) (arguments : List Bytes) : Tool Unit := do
  let given ← options [setting "n" ["lines"], setting "c" ["bytes"], toggle "q" ["quiet", "silent"],
    toggle "v" ["verbose"], toggle "z" ["zero-terminated"], toggle "f" ["follow"], toggle "F",
    setting "s" ["sleep-interval"]] (modern arguments) 1
  let inBytes := given.last? ["n", "c"] = some "c"
  let text := (given.value? (if inBytes then "c" else "n")).getD (Bytes.ofString "10")
  let sign := if isEnd then ascii '+' else ascii '-'
  let isOther := text.head? = some sign
  let digits :=
    if isOther || text.head? = some (ascii '-') || text.head? = some (ascii '+') then text.drop 1
    else text
  let extent : Extent ←
    match count? digits with
    | some count => pure ⟨count, inBytes, isOther⟩
    | none =>
      failWith 1 (Bytes.ofString ("invalid number of " ++ (if inBytes then "bytes" else "lines")
        ++ ": ") ++ Quotation.cited text)
  let showsHeaders := given.last? ["q", "v"] = some "v"
    || (given.last? ["q", "v"] = none && 1 < given.operands.length)
  let mut isFirst := true
  for path in if given.operands.isEmpty then [[ascii '-']] else given.operands do
    match ← openInput path with
    | .error fault =>
      complain (Bytes.ofString "cannot open " ++ Quotation.quoted path
        ++ Bytes.ofString (" for reading: " ++ fault.reason))
    | .ok descriptor =>
      if showsHeaders then
        put (header isFirst path)
        isFirst := false
      let shown ←
        if isEnd then showEnd extent descriptor
        else if isOther then showAllBut extent descriptor
        else if inBytes then showBytes descriptor extent.count portionLimit
        else showLines descriptor extent.count
      match shown with
      | .ok () => pure ()
      | .error fault =>
        complain (Bytes.ofString "error reading " ++ Quotation.quoted path
          ++ Bytes.ofString (": " ++ fault.reason))
      if !isEnd then
        giveBack descriptor
      closeInput descriptor

/-- How much there is in a file. -/
structure Tally where
  lines : Nat
  words : Nat
  characters : Nat
  bytes : Nat
  widest : Nat

namespace Tally

def zero : Tally := ⟨0, 0, 0, 0, 0⟩

def add (tally other : Tally) : Tally :=
  ⟨tally.lines + other.lines, tally.words + other.words, tally.characters + other.characters,
    tally.bytes + other.bytes, max tally.widest other.widest⟩

/-- How much there is in some bytes. -/
def ofBytes (bytes : Bytes) : Tally :=
  let isInk (b : UInt8) : Bool := !Text.Ascii.isSpace b
  let isVisible (b : UInt8) : Bool := 0x20 ≤ b && b ≤ 0x7E
  let rec count : Bool → Bytes → Nat
    | _, [] => 0
    | inWord, b :: rest =>
      if isInk b then
        (if inWord || !isVisible b then 0 else 1) + count (inWord || isVisible b) rest
      else count false rest
  ⟨bytes.count 0x0A, count false bytes, bytes.length, bytes.length,
    ((Text.splitAt 0x0A bytes).map List.length).foldl max 0⟩

end Tally

/-- Counts what is in files. -/
def tally (arguments : List Bytes) : Tool Unit := do
  whenUnheard fun reason =>
    (1, ["write error" ++ if reason = Fault.noSpace.reason then "" else ": " ++ reason])
  let given ← options [toggle "l" ["lines"], toggle "w" ["words"], toggle "c" ["bytes"],
    toggle "m" ["chars"], toggle "L" ["max-line-length"]] arguments 1
  let isUsual := given.options.isEmpty
  let numbers (tally : Tally) : List Nat :=
    (if isUsual || given.has "l" then [tally.lines] else [])
      ++ (if isUsual || given.has "w" then [tally.words] else [])
      ++ (if given.has "m" then [tally.characters] else [])
      ++ (if isUsual || given.has "c" then [tally.bytes] else [])
      ++ (if given.has "L" then [tally.widest] else [])
  let paths := if given.operands.isEmpty then [[ascii '-']] else given.operands
  let mut least := 1
  let mut total := 0
  for path in paths do
    let size? ←
      if path = [ascii '-'] then sizeOf? 0
      else do
        let seen ← view
        pure <| match seen.facts true ⟨path⟩ with
        | .ok facts => if facts.kind = .file then some facts.size else none
        | .error _ => some 0
    match size? with
    | some size => total := total + size
    | none => least := 7
  let isSingle := paths.length = 1 && (numbers .zero).length = 1
  let width := if isSingle then 1 else max least (toString total).length
  let show' (tally : Tally) (name : Bytes) : Tool Unit := do
    let columns := (numbers tally).map fun (number : Nat) =>
      Numeral.Directive.signed { Numeral.Directive.plain with width } number
    putLine (Text.joinWith (ascii ' ') columns ++ (if name = [] then [] else ascii ' ' :: name))
  let mut sum := Tally.zero
  for path in paths do
    match ← openInput path with
    | .error fault => complainOf path fault
    | .ok descriptor =>
      let read ← readAll descriptor
      closeInput descriptor
      let (bytes, fault?) :=
        match read with
        | .ok bytes => (bytes, none)
        | .error fault => ([], some fault)
      match fault? with
      | some fault => complainOf path fault
      | none => pure ()
      let counted := Tally.ofBytes bytes
      sum := sum.add counted
      show' counted (if given.operands.isEmpty then [] else path)
  if 1 < paths.length then
    show' sum (Bytes.ofString "total")

end ChangelogSql.Utility.Show
