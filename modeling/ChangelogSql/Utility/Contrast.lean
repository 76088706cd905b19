import ChangelogSql.Numeral.Directive
import ChangelogSql.Text.Hunk
import ChangelogSql.Utility.Calendar
import ChangelogSql.Utility.Input
import ChangelogSql.Utility.Option
import ChangelogSql.Utility.Transfer

/-!
Comparing files and directories line by line. The code at the end tells whether
there is a difference: 0 for none, 1 for some, and 2 where something could not be
looked at.
-/

namespace ChangelogSql.Utility.Contrast

open Text (ascii)
open Text.Difference (Change Hunk)
open Files Kernel
open Tool

/-- How differences are shown. -/
inductive Shape where
  /-- What has to be done, with the lines it is done to. -/
  | plain
  /-- Both sides in one row, with so many lines around. -/
  | unified (context : Nat)
  /-- One side after the other, with so many lines around. -/
  | sided (context : Nat)
  /-- Only that there is a difference. -/
  | brief
  deriving DecidableEq

/-- How files and directories are compared. -/
structure Manner where
  shape : Shape
  tellsSame : Bool
  recurses : Bool
  /-- What is missing on one side counts as an empty file. -/
  emptyIfMissing : Bool
  isText : Bool
  /-- What of a line counts. -/
  key : Bytes → Bytes
  ignoresBlank : Bool
  /-- What stands in place of the names. -/
  labels : List Bytes
  /-- Names that are passed over in directories. -/
  excluded : List Bytes
  /-- How the command was called, in front of its operands. -/
  calling : Bytes

/-- One side of a comparison, with its content where it is a file. -/
structure Side where
  name : Bytes
  facts? : Option Facts
  bytes : Bytes

/-- A line without the byte that ends it. -/
def body (line : Bytes) : Bytes :=
  if line.getLast? = some 0x0A then line.dropLast else line

def trimmedEnd (line : Bytes) : Bytes :=
  (line.reverse.dropWhile Text.Ascii.isSpace).reverse

/-- A line with one blank in place of several. -/
def squeezed : Bytes → Bytes
  | [] => []
  | b :: rest =>
    let others := squeezed rest
    if Text.Ascii.isSpace b then
      if others.head? = some 0x20 then others else 0x20 :: others
    else b :: others

/-- What of a line counts, as options say. -/
def keyOf (given : Given) (line : Bytes) : Bytes :=
  let line := if given.has "i" then line.map Text.Ascii.lower else line
  let line :=
    if given.has "return" && (Bytes.ofString "\r\n").isSuffixOf line then
      line.take (line.length - 2) ++ [0x0A]
    else line
  if given.has "w" then line.filter fun b => !Text.Ascii.isSpace b
  else if given.has "b" then squeezed (trimmedEnd line)
  else if given.has "Z" then trimmedEnd line
  else line

/-- Lines that a change takes out or puts in. -/
def removed (old : Array Bytes) (change : Change) : List Bytes :=
  (old.extract change.oldStart (change.oldStart + change.oldCount)).toList

def inserted (new : Array Bytes) (change : Change) : List Bytes :=
  (new.extract change.newStart (change.newStart + change.newCount)).toList

/-- Numbers of lines as they are written: the first and the last one. -/
def span (start count : Nat) : Bytes :=
  if count = 0 then Text.Ascii.ofNat start
  else if count = 1 then Text.Ascii.ofNat (start + 1)
  else Text.Ascii.ofNat (start + 1) ++ ascii ',' :: Text.Ascii.ofNat (start + count)

/-- A line behind a sign; one that is not ended is ended here, with a remark. -/
def marked (sign : String) (line : Bytes) : Bytes :=
  Bytes.ofString sign ++ line
    ++ if line.getLast? = some 0x0A then []
      else Bytes.ofString "\n\\ No newline at end of file\n"

/-- A change as something that has to be done. -/
def plainChange (old new : Array Bytes) (change : Change) : Bytes :=
  let letter :=
    if change.oldCount = 0 then 'a' else if change.newCount = 0 then 'd' else 'c'
  span change.oldStart change.oldCount ++ ascii letter :: span change.newStart change.newCount
    ++ 0x0A :: (removed old change).flatMap (marked "< ")
    ++ (if letter = 'c' then Bytes.ofString "---\n" else [])
    ++ (inserted new change).flatMap (marked "> ")

/-- The lines of one side of a hunk; `isHere` tells of a change where it stands on that side and how
many lines it has there and on the other one. -/
def sideLines (lines : Array Bytes) (sign : String) (isHere : Change → Nat × Nat × Nat) :
    Nat → Nat → List Change → Bytes
  | start, stop, [] => ((lines.extract start stop).toList).flatMap (marked "  ")
  | start, stop, change :: rest =>
    let (place, count, others) := isHere change
    ((lines.extract start place).toList).flatMap (marked "  ")
      ++ ((lines.extract place (place + count)).toList).flatMap
        (marked (if others = 0 then sign else "! "))
      ++ sideLines lines sign isHere (place + count) stop rest

/-- A hunk with one side after the other. -/
def sidedHunk (old new : Array Bytes) (hunk : Hunk) : Bytes :=
  let front (change : Change) := (change.oldStart, change.oldCount, change.newCount)
  let behind (change : Change) := (change.newStart, change.newCount, change.oldCount)
  let takesOut := hunk.changes.any fun change => change.oldCount ≠ 0
  let putsIn := hunk.changes.any fun change => change.newCount ≠ 0
  Bytes.ofString "***************\n*** " ++ span hunk.oldStart hunk.oldCount
    ++ Bytes.ofString " ****\n"
    ++ (if takesOut then
      sideLines old "- " front hunk.oldStart (hunk.oldStart + hunk.oldCount) hunk.changes
    else [])
    ++ Bytes.ofString "--- " ++ span hunk.newStart hunk.newCount ++ Bytes.ofString " ----\n"
    ++ if putsIn then
      sideLines new "+ " behind hunk.newStart (hunk.newStart + hunk.newCount) hunk.changes
    else []

/-- A name with what would not be seen in it written out, in quotes where that is needed. -/
def shownName (name : Bytes) : Bytes :=
  let isPlain (b : UInt8) : Bool :=
    Quotation.isVisible b && b ≠ ascii ' ' && b ≠ ascii '"' && b ≠ ascii '\\'
  let shown (b : UInt8) : Bytes :=
    if b = ascii '"' || b = ascii '\\' then [ascii '\\', b]
    else if Quotation.isVisible b then [b]
    else Quotation.escape b
  if name.all isPlain then name else ascii '"' :: name.flatMap shown ++ [ascii '"']

/-- When a side was changed last. -/
def stamp (form : String) (side : Side) : Bytes :=
  let modified := (side.facts?.map Facts.modified).getD 0
  let moment := Moment.ofSeconds ((modified / 1000000000 : Nat) : Int)
  let fraction := Moment.digits 9 (modified % 1000000000)
  let text := (form.splitOn "#").map fun part => moment.inForm part.toList
  Bytes.ofString (String.intercalate fraction text)

/-- The two lines in front of the hunks. -/
def titles (manner : Manner) (old new : Side) : Bytes :=
  let isUnified := match manner.shape with
    | .unified _ => true
    | _ => false
  let form := if isUnified then "%Y-%m-%d %H:%M:%S.# %z" else "%a %b %e %H:%M:%S %Y"
  let title (sign : String) (place : Nat) (side : Side) : Bytes :=
    let text :=
      match manner.labels[place]? with
      | some label => label
      | none => shownName side.name ++ 0x09 :: stamp form side
    Bytes.ofString sign ++ text ++ [0x0A]
  title (if isUnified then "--- " else "*** ") 0 old
    ++ title (if isUnified then "+++ " else "--- ") 1 new

/-- A change that only concerns blank lines. -/
def isBlankOnly (manner : Manner) (old new : Array Bytes) (change : Change) : Bool :=
  (removed old change ++ inserted new change).all fun line => body (manner.key line) = []

/-- How many lines two rows have in common from their beginnings on. -/
def sharedFront : List Bytes → List Bytes → Nat
  | a :: old, b :: new => if a = b then sharedFront old new + 1 else 0
  | _, _ => 0

/-- What changes between two rows of lines. The lines that both have at their beginnings and at their
ends take no part, but for `around` of them on either side. -/
def changesOf (key : Bytes → Bytes) (around : Nat) (old new : Array Bytes) : List Change :=
  let front := sharedFront old.toList new.toList - around
  let oldRest := old.toList.drop front
  let newRest := new.toList.drop front
  let back := sharedFront oldRest.reverse newRest.reverse - around
  let part (lines : Array Bytes) : Array Bytes :=
    (lines.extract front (lines.size - back)).map key
  (Text.Difference.ofLines .last (part old) (part new)).map fun change =>
    { change with oldStart := change.oldStart + front, newStart := change.newStart + front }

/-- How many lines are shown around a change. -/
def Shape.context : Shape → Nat
  | .unified context | .sided context => context
  | .plain | .brief => 0

/-- The differences of two texts; nothing where there are none that count. -/
def differences (manner : Manner) (old new : Side) : Bytes :=
  let before := Text.Difference.linesOf old.bytes
  let after := Text.Difference.linesOf new.bytes
  let changes := changesOf manner.key manner.shape.context before after
  let counts (change : Change) : Bool :=
    !(manner.ignoresBlank && isBlankOnly manner before after change)
  let hunks (context : Nat) : List Hunk :=
    (Text.Difference.hunks context (!counts ·) before.size after.size changes).filter fun hunk =>
      hunk.changes.any counts
  if !changes.any counts then []
  else
    match manner.shape with
    | .plain | .brief => (changes.filter counts).flatMap (plainChange before after)
    | .unified context =>
      titles manner old new ++ (hunks context).flatMap (Hunk.shown [] before after)
    | .sided context =>
      titles manner old new ++ (hunks context).flatMap (sidedHunk before after)

/-- A text that is not shown line by line. -/
def isBinary (bytes : Bytes) : Bool :=
  (bytes.take 4096).contains 0

/-- The words for a kind of thing. -/
def kindName (facts : Facts) : String :=
  match facts.kind with
  | .file => if facts.size = 0 then "regular empty file" else "regular file"
  | .directory => "directory"
  | .link => "symbolic link"
  | .device => "character special file"
  | .queue => "fifo"

/-- Tells the verdict on two files. -/
def tellFiles (manner : Manner) (isInside : Bool) (old new : Side) : Tool Nat := do
  let first := (manner.labels[0]?).getD old.name
  let second := (manner.labels[1]?).getD new.name
  let pair := old.name ++ Bytes.ofString " and " ++ new.name
  let same : Tool Nat := do
    if manner.tellsSame then
      putLine (Bytes.ofString "Files " ++ pair ++ Bytes.ofString " are identical")
    return 0
  if old.bytes = new.bytes then same
  else if !manner.isText && (isBinary old.bytes || isBinary new.bytes) then
    let word := if manner.shape = .brief then "Files " else "Binary files "
    putLine (Bytes.ofString word ++ first ++ Bytes.ofString " and " ++ second
      ++ Bytes.ofString " differ")
    return 1
  else
    match differences manner old new with
    | [] => same
    | text =>
      if manner.shape = .brief then
        putLine (Bytes.ofString "Files " ++ pair ++ Bytes.ofString " differ")
      else
        if isInside then
          putLine (Bytes.ofString "diff" ++ manner.calling ++ 0x20 :: first ++ 0x20 :: second)
        put text
      return 1

/-- A side by its name, with its content where it is a file; a dash is the input. -/
def sideOf (name : Bytes) : Tool (Except Fault Side) := do
  if name = [ascii '-'] then
    let clock ← ask (Kernel.Request.look fun _ system => system.disk.clock)
    let facts : Facts := ⟨.file, 0, 0, clock, .file 0⟩
    match ← readAll 0 with
    | .ok bytes => return .ok ⟨name, some facts, bytes⟩
    | .error fault => return .error fault
  else
    match (← view).facts true ⟨name⟩ with
    | .error fault => return .error fault
    | .ok facts =>
      if facts.kind = .directory then return .ok ⟨name, some facts, []⟩
      else
        match ← openInput name with
        | .error fault => return .error fault
        | .ok descriptor =>
          let result ← readAll descriptor
          closeInput descriptor
          match result with
          | .ok bytes => return .ok ⟨name, some facts, bytes⟩
          | .error fault => return .error fault

def Side.isDirectory (side : Side) : Bool :=
  side.facts?.any (·.kind = .directory)

/-- A side or its lack, where it may be missing. -/
def sideOrNone (manner : Manner) (mayLack : Bool) (name : Bytes) : Tool (Option Side) := do
  match ← sideOf name with
  | .ok side => return some side
  | .error fault =>
    if manner.emptyIfMissing && mayLack && fault = .notFound then return some ⟨name, none, []⟩
    else
      warn (name ++ Bytes.ofString (": " ++ fault.reason))
      return none

mutual

/-- Compares what stands at two places; `isInside` tells that they are in directories, and `mayLack`
that one of them can be missing. -/
def compareAt (manner : Manner) : Nat → Bool → Bool → Bytes → Bytes → Tool Nat
  | 0, _, _, _, _ => return 2
  | fuel + 1, isInside, mayLack, first, second => do
    match ← sideOrNone manner mayLack first, ← sideOrNone manner mayLack second with
    | some old, some new =>
      if old.facts?.isNone && new.facts?.isNone then
        for side in [old, new] do
          warn (side.name ++ Bytes.ofString ": No such file or directory")
        return 2
      else if old.isDirectory || new.isDirectory then
        compareDirectories manner fuel isInside old new
      else
        tellFiles manner isInside old new
    | _, _ => return 2

/-- Compares two things of which one at least is a directory. -/
def compareDirectories (manner : Manner) : Nat → Bool → Side → Side → Tool Nat
  | 0, _, _, _ => return 2
  | fuel + 1, isInside, old, new => do
    let areBoth := (old.isDirectory || old.facts?.isNone)
      && (new.isDirectory || new.facts?.isNone)
    if !areBoth then
      let words (side : Side) : Bytes :=
        side.name ++ Bytes.ofString (" is a " ++ (side.facts?.map kindName).getD "")
      putLine (Bytes.ofString "File " ++ words old ++ Bytes.ofString " while file " ++ words new)
      return 1
    else if isInside && !manner.recurses then
      putLine (Bytes.ofString "Common subdirectories: " ++ old.name ++ Bytes.ofString " and "
        ++ new.name)
      return 0
    else
      let seen ← view
      let names (side : Side) : List Bytes :=
        if side.isDirectory then Transfer.namesIn seen side.name else []
      let first := names old
      let second := names new
      let all := ((first ++ second).eraseDups.filter fun name =>
        !manner.excluded.contains name).mergeSort fun name other => name ≤ other
      compareNames manner fuel old.name new.name first second all 0

/-- Compares what stands under names in two directories; the answer is the gravest verdict. -/
def compareNames (manner : Manner) : Nat → Bytes → Bytes → List Bytes → List Bytes → List Bytes →
    Nat → Tool Nat
  | 0, _, _, _, _, _, _ => return 2
  | _, _, _, _, _, [], code => return code
  | fuel + 1, old, new, first, second, name :: rest, code => do
    let isHere := first.contains name
    let isThere := second.contains name
    let verdict ←
      if manner.emptyIfMissing || (isHere && isThere) then
        compareAt manner fuel true true (Entry.within old name) (Entry.within new name)
      else do
        let place := if isHere then old else new
        putLine (Bytes.ofString "Only in " ++ place ++ Bytes.ofString ": " ++ name)
        pure 1
    compareNames manner fuel old new first second rest (max code verdict)

end

def lineForms : List Form :=
  [toggle "q" ["brief"], toggle "s" ["report-identical-files"], toggle "r" ["recursive"],
    toggle "N" ["new-file"], toggle "a" ["text"], toggle "i" ["ignore-case"],
    toggle "w" ["ignore-all-space"], toggle "b" ["ignore-space-change"],
    toggle "Z" ["ignore-trailing-space"], toggle "B" ["ignore-blank-lines"],
    toggle "return" ["strip-trailing-cr"], toggle "u", toggle "c",
    ⟨"unified", ["unified"], .perhaps⟩, ⟨"context", ["context"], .perhaps⟩, setting "U",
    setting "C", toggle "normal" ["normal"], setting "L" ["label"], setting "x" ["exclude"],
    toggle "d" ["minimal"], toggle "E" ["ignore-tab-expansion"], toggle "t" ["expand-tabs"],
    toggle "T" ["initial-tab"], toggle "p" ["show-c-function"], ⟨"color", ["color"], .perhaps⟩,
    toggle "P" ["unidirectional-new-file"], toggle "aside" ["no-dereference"],
    toggle "H" ["speed-large-files"]]
    ++ (List.range 10).map fun digit => toggle (toString digit)

/-- The shape that options ask for. -/
def shapeOf (given : Given) : Shape :=
  let context (key : String) : Nat := ((given.value? key).bind Text.Ascii.decimal?).getD 3
  let digits := given.options.filterMap fun (name, _) =>
    (Text.Ascii.decimal? (Bytes.ofString name)).map fun _ => name
  let plain := ((Text.Ascii.decimal? (Bytes.ofString (String.join digits)))).getD 3
  if given.has "q" then .brief
  else
    match given.last? ["u", "c", "unified", "context", "U", "C", "normal"] with
    | some "u" => .unified plain
    | some "unified" => .unified (context "unified")
    | some "U" => .unified (context "U")
    | some "c" => .sided plain
    | some "context" => .sided (context "context")
    | some "C" => .sided (context "C")
    | _ => .plain

/-- Arguments without the operands among them. -/
def withoutOperands : List Bytes → List Bytes → List Bytes
  | [], _ => []
  | argument :: rest, operands =>
    if operands.head? = some argument then withoutOperands rest (operands.drop 1)
    else argument :: withoutOperands rest operands

/-- All values of an option. -/
def valuesOf (given : Given) (key : String) : List Bytes :=
  given.options.filterMap fun (name, value?) => if name = key then value? else none

/-- Complains about how the program was called, and ends it. -/
def refuse {α : Type} (text : Bytes) : Tool α := do
  warn text
  let name := (← get).name
  failWith 2 (Bytes.ofString "Try '" ++ name ++ Bytes.ofString " --help' for more information.")

/-- Ends the program because it was called with too few operands. -/
def refuseLack {α : Type} (arguments operands : List Bytes) : Tool α := do
  let last := ((operands.getLast?).or arguments.getLast?).getD (← get).name
  refuse (Bytes.ofString "missing operand after '" ++ last ++ [ascii '\''])

/-- The options and operands among arguments. -/
def givenOf (forms : List Form) (arguments : List Bytes) : Tool Given := do
  match Options.ofArguments forms true arguments with
  | .ok given => return given
  | .error refusal => refuse refusal

/-- How many steps a comparison takes at most. -/
def patience : Nat := 100000

/-- Compares files or directories line by line. -/
def lines (arguments : List Bytes) : Tool Unit := do
  whenUnheard fun reason => (2, ["standard output: " ++ reason])
  let given ← givenOf lineForms arguments
  let calling := (withoutOperands arguments given.operands).flatMap fun argument =>
    0x20 :: Quotation.shown argument
  let manner : Manner := {
    shape := shapeOf given, tellsSame := given.has "s", recurses := given.has "r"
    emptyIfMissing := given.has "N", isText := given.has "a", key := keyOf given
    ignoresBlank := given.has "B", labels := valuesOf given "L", excluded := valuesOf given "x"
    calling }
  match given.operands with
  | [first, second] =>
    let seen ← view
    let isDirectory (path : Bytes) : Bool :=
      path ≠ [ascii '-'] && ((seen.facts true ⟨path⟩).toOption.any fun facts =>
        facts.kind = .directory)
    let base (path : Bytes) : Bytes :=
      (((path.reverse.dropWhile (· = separator)).takeWhile (· ≠ separator))).reverse
    let (left, right) :=
      if isDirectory first && !isDirectory second then (Entry.within first (base second), second)
      else if isDirectory second && !isDirectory first then
        (first, Entry.within second (base first))
      else (first, second)
    let isNamed := left = first && right = second
    let code ← compareAt manner patience false isNamed left right
    setCode (UInt8.ofNat code)
  | [] | [_] => refuseLack arguments given.operands
  | _ :: _ :: extra :: _ => refuse (Bytes.ofString "extra operand '" ++ extra ++ [ascii '\''])

/-- A byte as it is shown beside its number. -/
def visibleByte (b : UInt8) : Bytes :=
  let low := b % 128
  (if 128 ≤ b then Bytes.ofString "M-" else [])
    ++ if low < 32 then [ascii '^', low + 64] else if low = 127 then Bytes.ofString "^?" else [low]

/-- A byte as an octal number in three columns. -/
def octalByte (b : UInt8) : Bytes :=
  let digits := Numeral.Directive.digitsOf 8 b.toNat
  List.replicate (3 - digits.length) 0x20 ++ digits

/-- A text in so many columns. -/
def column (width : Nat) (text : Bytes) : Bytes :=
  text ++ List.replicate (width - text.length) 0x20

def byteForms : List Form :=
  [toggle "b" ["print-bytes"], setting "i" ["ignore-initial"], toggle "l" ["verbose"],
    setting "n" ["bytes"], toggle "s" ["quiet", "silent"]]

/-- Everything at a path that is compared byte by byte. -/
def bytesAt (isSilent : Bool) (path : Bytes) : Tool Bytes := do
  let refuseFile (fault : Fault) : Tool Bytes := do
    if !isSilent then warn (path ++ Bytes.ofString (": " ++ fault.reason))
    setCode 2
    stop
  match ← openInput path with
  | .error fault => refuseFile fault
  | .ok descriptor =>
    match ← readAll descriptor with
    | .error fault => failWith 2 (path ++ Bytes.ofString (": " ++ fault.reason))
    | .ok bytes => return bytes

/-- Compares two files byte by byte. -/
def bytes (arguments : List Bytes) : Tool Unit := do
  whenUnheard fun reason => (2, ["standard output: " ++ reason])
  let given ← givenOf byteForms arguments
  let number (text : Bytes) : Tool Nat := do
    match Text.Ascii.decimal? text with
    | some number => return number
    | none => refuse (Bytes.ofString "invalid --bytes value '" ++ text ++ [ascii '\''])
  let parts := (given.value? "i").map (Text.splitAt (ascii ':'))
  let limit? ← (given.value? "n").mapM number
  let (first, second, skips) ←
    match given.operands with
    | [] => refuseLack arguments []
    | [first] => pure (first, [ascii '-'], [])
    | first :: second :: skips => pure (first, second, skips)
  let skip (place : Nat) : Tool Nat := do
    let own ← ((skips[place]?).mapM number : Tool (Option Nat))
    let shared ← (parts.bind fun texts => (texts[place]?).or texts.head?).mapM number
    return max (own.getD 0) (shared.getD 0)
  let isSilent := given.has "s"
  let cut (bytes : Bytes) (count : Nat) : Bytes :=
    let rest := bytes.drop count
    (limit?.map fun limit => rest.take limit).getD rest
  let skipFirst ← skip 0
  let skipSecond ← skip 1
  let old := cut (← bytesAt isSilent first) skipFirst
  let new := cut (← bytesAt isSilent second) skipSecond
  let pairs := (old.zip new).zipIdx.filter fun ((a, b), _) => a ≠ b
  let shared := min old.length new.length
  let lineOf (place : Nat) : Nat := (old.take place).count 0x0A
  let numbers (a b : UInt8) : Bytes :=
    if given.has "b" then
      octalByte a ++ 0x20 :: column 4 (visibleByte a) ++ 0x20 :: octalByte b
        ++ 0x20 :: visibleByte b
    else octalByte a ++ 0x20 :: octalByte b
  if isSilent then
    if old ≠ new then setCode 1
  else if given.has "l" then
    let width := (Text.Ascii.ofNat shared).length
    for ((a, b), place) in pairs do
      let text := Text.Ascii.ofNat (place + 1)
      putLine (List.replicate (width - text.length) 0x20 ++ text ++ 0x20 :: numbers a b)
    if !pairs.isEmpty then setCode 1
  else
    match pairs.head? with
    | some ((a, b), place) =>
      let word := if given.has "b" then "byte" else "char"
      let behind :=
        if given.has "b" then
          Bytes.ofString " is " ++ octalByte a ++ 0x20 :: visibleByte a ++ 0x20 :: octalByte b
            ++ 0x20 :: visibleByte b
        else []
      putLine (first ++ 0x20 :: second ++ Bytes.ofString (" differ: " ++ word
        ++ s!" {place + 1}, line {lineOf place + 1}") ++ behind)
      setCode 1
    | none => pure ()
  let isCut := pairs.isEmpty || given.has "l"
  if old.length ≠ new.length && isCut && !isSilent then
    let shorter := if old.length < new.length then first else second
    let lines := lineOf shared
    let isEnded := shared ≠ 0 && (old[shared - 1]?) = some 0x0A
    let place :=
      if shared = 0 then " which is empty"
      else if given.has "l" then s!" after byte {shared}"
      else if isEnded then s!" after byte {shared}, line {lines}"
      else s!" after byte {shared}, in line {lines + 1}"
    flush
    warn (Bytes.ofString "EOF on " ++ shorter ++ Bytes.ofString place)
    setCode 1

end ChangelogSql.Utility.Contrast
