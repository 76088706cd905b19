import ChangelogSql.Numeral.Directive
import ChangelogSql.Utility.Sorting

/-!
The programs that take lines apart and put them together: parts of lines, lines
side by side, lines backwards, numbered or broken.
-/

namespace ChangelogSql.Utility.Column

open Text (ascii)
open Files Kernel
open Tool
open Sorting (linesOf)

/-- From a first to a last one, or on to the end. -/
structure Span where
  first : Nat
  last? : Option Nat

/-- A number lies in one of some spans. -/
def isIn (spans : List Span) (number : Nat) : Bool :=
  spans.any fun span => span.first ≤ number && span.last?.all (number ≤ ·)

/-- Numbers begin a span that does not go on from the one before. -/
def begins (spans : List Span) (number : Nat) : Bool :=
  spans.any fun span => span.first = number

/-- The span that a text lays down. -/
def span (inFields : Bool) (text : Bytes) : Except Bytes Span :=
  let invalid {α : Type} (text : Bytes) : Except Bytes α :=
    .error (Bytes.ofString (if inFields then "invalid field value " else
      "invalid byte/character position ") ++ Quotation.cited text)
  let zero {α : Type} : Except Bytes α :=
    .error (Bytes.ofString (if inFields then "fields are numbered from 1"
      else "byte/character positions are numbered from 1"))
  let number (digits : Bytes) : Except Bytes Nat :=
    match Text.Ascii.decimal? digits with
    | some 0 => zero
    | some number => .ok number
    | none => invalid text
  match Text.splitAt (ascii '-') text with
  | [single] => do
    if single = [] then zero
    let first ← number single
    return ⟨first, some first⟩
  | [first, last] => do
    if first = [] && last = [] then
      .error (Bytes.ofString "invalid range with no endpoint: -")
    let first ← if first = [] then pure 1 else number first
    let last? ← if last = [] then pure none else (number last).map some
    if last?.any (· < first) then .error (Bytes.ofString "invalid decreasing range")
    return ⟨first, last?⟩
  | _ => .error (Bytes.ofString (if inFields then "invalid field range"
      else "invalid byte or character range"))

/-- Spans put in order; those that overlap are one. -/
def joined (spans : List Span) : List Span :=
  let sorted := spans.mergeSort fun span other => span.first ≤ other.first
  (sorted.foldl
    (fun (before : List Span) span =>
      match before with
      | [] => [span]
      | last :: rest =>
        match last.last? with
        | none => before
        | some end' =>
          if span.first ≤ end' then
            ⟨last.first, span.last?.map (max end')⟩ :: rest
          else span :: before)
    []).reverse

/-- The selected bytes of a line, with a text between the spans. -/
def cutBytes (spans : List Span) (isChosen : Nat → Bool) (gap : Bytes) (line : Bytes) : Bytes :=
  let rec go : Nat → Bool → Bytes → Bytes
    | _, _, [] => []
    | number, hasBefore, b :: rest =>
      if isChosen number then
        (if hasBefore && begins spans number then gap else []) ++ b :: go (number + 1) true rest
      else go (number + 1) hasBefore rest
  go 1 false line

/-- Does something with everything in some files, one after the other. -/
def forContents (paths : List Bytes) (work : Bytes → Tool Unit) : Tool Unit :=
  forInputs paths fun path descriptor => do
    match ← readAll descriptor with
    | .error fault => complainOf path fault
    | .ok bytes => work bytes

/-- Cuts parts out of lines. -/
def cut (arguments : List Bytes) : Tool Unit := do
  let given ← options [setting "b" ["bytes"], setting "c" ["characters"],
    setting "d" ["delimiter"], setting "f" ["fields"], toggle "n", toggle "complement"
    ["complement"], toggle "s" ["only-delimited"], setting "output" ["output-delimiter"],
    toggle "z" ["zero-terminated"]] arguments 1
  let lists := given.options.filter fun entry => ["b", "c", "f"].contains entry.1
  let (key, list) ←
    match lists with
    | [] => misuse 1 (Bytes.ofString "you must specify a list of bytes, characters, or fields")
    | [(key, value?)] => pure (key, value?.getD [])
    | _ => misuse 1 (Bytes.ofString "only one list may be specified")
  let inFields := key = "f"
  let separator ←
    match given.value? "d" with
    | none => pure (ascii '\t')
    | some [] => pure 0
    | some [b] => pure b
    | some _ => misuse 1 (Bytes.ofString "the delimiter must be a single character")
  if !inFields && given.has "d" then
    misuse 1 (Bytes.ofString
      "an input delimiter may be specified only when operating on fields")
  if !inFields && given.has "s" then
    misuse 1 (Bytes.ofString ("suppressing non-delimited lines makes sense\n"
      ++ "\tonly when operating on fields"))
  let items := (list.map fun b => if b = ascii ' ' || b = ascii '\t' then ascii ',' else b)
  let spans ←
    match (Text.splitAt (ascii ',') items).mapM (span inFields) with
    | .ok spans => pure (joined spans)
    | .error text => misuse 1 text
  let isChosen (number : Nat) : Bool := isIn spans number != given.has "complement"
  let ending : UInt8 := if given.has "z" then 0 else 0x0A
  let cutLine (line : Bytes) : Option Bytes :=
    if inFields then
      let fields := Text.splitAt separator line
      if fields.length = 1 then if given.has "s" then none else some line
      else
        let numbered := (List.range fields.length).zip fields
        let chosen := numbered.filterMap fun (place, field) =>
          if isChosen (place + 1) then some field else none
        let gap := (given.value? "output").getD [separator]
        some (match chosen with
          | [] => []
          | first :: rest => first ++ rest.flatMap fun field => gap ++ field)
    else
      let gap := if given.has "complement" then [] else (given.value? "output").getD []
      some (cutBytes spans isChosen gap line)
  forContents given.operands fun bytes => do
    for line in linesOf ending bytes do
      match cutLine line with
      | some text => put (text ++ [ending])
      | none => pure ()

/-- The separators that a text lays down. -/
def separators : Bytes → List Bytes
  | [] => []
  | 0x5C :: b :: rest =>
    let text : Bytes :=
      match Char.ofNat b.toNat with
      | 'n' => [0x0A]
      | 't' => [0x09]
      | '0' => []
      | '\\' => [0x5C]
      | _ => [b]
    text :: separators rest
  | b :: rest => [b] :: separators rest

/-- Columns side by side. -/
def sideBySide (gaps : Array Bytes) (columns : List (List Bytes)) : Bytes :=
  let gap (place : Nat) : Bytes :=
    if gaps.isEmpty then [] else (gaps[place % gaps.size]?).getD []
  ((List.range columns.length).zip columns).flatMap fun (place, column) =>
    (if place = 0 then [] else gap (place - 1)) ++ (column.head?.getD [])

/-- Puts lines of files side by side, or the lines of each file. -/
def paste (arguments : List Bytes) : Tool Unit := do
  let given ← options [setting "d" ["delimiters"], toggle "s" ["serial"],
    toggle "z" ["zero-terminated"]] arguments 1
  let ending : UInt8 := if given.has "z" then 0 else 0x0A
  let gaps := (separators ((given.value? "d").getD [0x09])).toArray
  let gap (place : Nat) : Bytes :=
    if gaps.isEmpty then [] else (gaps[place % gaps.size]?).getD []
  let paths := if given.operands.isEmpty then [[ascii '-']] else given.operands
  let mut texts : List (List Bytes) := []
  let dashes := (paths.filter (· = [ascii '-'])).length
  let mut common : List Bytes := []
  let mut hasRead := false
  let mut number := 0
  for path in paths do
    match ← openInput path with
    | .error fault =>
      if given.has "s" then complainOf path fault
      else failWith 1 (Quotation.shown path ++ Bytes.ofString (": " ++ fault.reason))
    | .ok descriptor =>
      if path = [ascii '-'] && !given.has "s" then
        if !hasRead then
          match ← readAll descriptor with
          | .ok bytes => common := linesOf ending bytes
          | .error fault => complainOf path fault
          hasRead := true
        let place := number
        let numbered := (List.range common.length).zip common
        texts := (numbered.filterMap fun entry =>
          if entry.1 % dashes = place then some entry.2 else none) :: texts
        number := number + 1
      else
        match ← readAll descriptor with
        | .ok bytes => texts := linesOf ending bytes :: texts
        | .error fault => complainOf path fault
        closeInput descriptor
  let columns := texts.reverse
  if given.has "s" then
    for lines in columns do
      let numbered := (List.range lines.length).zip lines
      put ((numbered.flatMap fun (place, line) =>
        (if place = 0 then [] else gap (place - 1)) ++ line) ++ [ending])
  else
    let height := (columns.map List.length).foldl max 0
    for place in List.range height do
      put (sideBySide gaps (columns.map fun lines => lines.drop place |>.take 1) ++ [ending])

/-- Puts out lines backwards. -/
def reverse (arguments : List Bytes) : Tool Unit := do
  let given ← options [] arguments 1
  for path in if given.operands.isEmpty then [[ascii '-']] else given.operands do
    match ← openInput path with
    | .error fault =>
      complain (Bytes.ofString "cannot open " ++ path ++ Bytes.ofString (": " ++ fault.reason))
    | .ok descriptor =>
      match ← readAll descriptor with
      | .error fault => complain (path ++ Bytes.ofString (": " ++ fault.reason))
      | .ok bytes =>
        put (Text.joinWith 0x0A ((Text.splitAt 0x0A bytes).map List.reverse))
      closeInput descriptor

/-- Records with what ends them behind them, or in front of them. -/
def recordsOf (separator : Bytes) (before : Bool) : Nat → Bytes → Bytes → List Bytes
  | 0, held, _ => [held.reverse]
  | _, held, [] => if held = [] then [] else [held.reverse]
  | fuel + 1, held, b :: rest =>
    match Text.afterBlock? separator (b :: rest) with
    | some after =>
      if before then
        (if held = [] then [] else [held.reverse])
          ++ recordsOf separator before fuel separator.reverse after
      else (separator.reverse ++ held).reverse :: recordsOf separator before fuel [] after
    | none => recordsOf separator before fuel (b :: held) rest

/-- Puts out records in the other order. -/
def backwards (arguments : List Bytes) : Tool Unit := do
  let given ← options [toggle "b" ["before"], toggle "r" ["regex"], setting "s" ["separator"]]
    arguments 1
  let separator := (given.value? "s").getD [0x0A]
  let separator := if separator = [] then [0] else separator
  for path in if given.operands.isEmpty then [[ascii '-']] else given.operands do
    match ← openInput path with
    | .error fault =>
      complain (Bytes.ofString "failed to open " ++ Quotation.quoted path
        ++ Bytes.ofString (" for reading: " ++ fault.reason))
    | .ok descriptor =>
      match ← readAll descriptor with
      | .error fault =>
        complain (Quotation.shown path ++ Bytes.ofString (": read error: " ++ fault.reason))
      | .ok bytes =>
        put (recordsOf separator (given.has "b") (bytes.length + 1) [] bytes).reverse.flatten
      closeInput descriptor

/-- The column behind a byte. -/
def columnAfter (inBytes : Bool) (column : Nat) (b : UInt8) : Nat :=
  if inBytes then column + 1
  else if b = 0x08 then column - 1
  else if b = 0x0D then 0
  else if b = 0x09 then column + 8 - column % 8
  else column + 1

/-- A line broken so that no part is wider than `width`; `held` is what stands in the part that has
begun. -/
def broken (inBytes atBlanks : Bool) (width : Nat) : Nat → Bytes → Nat → Bytes → Bytes
  | 0, held, _, rest => held.reverse ++ rest
  | _, held, _, [] => held.reverse
  | fuel + 1, held, column, b :: rest =>
    let next := columnAfter inBytes column b
    if next ≤ width || held = [] then broken inBytes atBlanks width fuel (b :: held) next rest
    else
      let isBlank (b : UInt8) : Bool := b = ascii ' ' || b = ascii '\t'
      let tail := held.takeWhile fun b => !isBlank b
      if atBlanks && tail.length < held.length then
        let kept := held.drop tail.length
        let column := tail.reverse.foldl (columnAfter inBytes) 0
        kept.reverse ++ 0x0A :: broken inBytes atBlanks width fuel tail column (b :: rest)
      else held.reverse ++ 0x0A :: broken inBytes atBlanks width fuel [] 0 (b :: rest)

/-- Breaks lines that are too wide. -/
def fold (arguments : List Bytes) : Tool Unit := do
  let isWidth (argument : Bytes) : Bool :=
    match argument with
    | 0x2D :: digit :: rest => Text.Ascii.isDigit digit && rest.all Text.Ascii.isDigit
    | _ => false
  let arguments := arguments.map fun argument =>
    if isWidth argument then Bytes.ofString "-w" ++ argument.drop 1 else argument
  let given ← options [toggle "b" ["bytes"], toggle "s" ["spaces"], setting "w" ["width"]]
    arguments 1
  let width ←
    match given.value? "w" with
    | none => pure 80
    | some text =>
      match Text.Ascii.decimal? text with
      | some 0 =>
        failWith 1 (Bytes.ofString "invalid number of columns: " ++ Quotation.cited text
          ++ Bytes.ofString ": Numerical result out of range")
      | some width => pure width
      | none => failWith 1 (Bytes.ofString "invalid number of columns: " ++ Quotation.cited text)
  forContents given.operands fun bytes => do
    let lines := (Text.splitAt 0x0A bytes).map fun line =>
      broken (given.has "b") (given.has "s") width (2 * line.length + 2) [] 0 line
    put (Text.joinWith 0x0A lines)

/-- A number in its column. -/
def numbered (manner : Bytes) (width : Nat) (number : Int) : Bytes :=
  let plain := Numeral.Directive.plain
  match Bytes.shown manner with
  | "ln" => Numeral.Directive.signed { plain with width, isLeft := true } number
  | "rz" => Numeral.Directive.signed { plain with width, hasZeros := true } number
  | _ => Numeral.Directive.signed { plain with width } number

/-- Numbers lines. -/
def numberLines (arguments : List Bytes) : Tool Unit := do
  let given ← options [setting "b" ["body-numbering"], setting "d" ["section-delimiter"],
    setting "f" ["footer-numbering"], setting "h" ["header-numbering"],
    setting "i" ["line-increment"], setting "l" ["join-blank-lines"], setting "n" ["number-format"],
    toggle "p" ["no-renumber"], setting "s" ["number-separator"],
    setting "v" ["starting-line-number"], setting "w" ["number-width"]] arguments 1
  let integer (key : String) (otherwise : Int) (words : String) : Tool Int := do
    match given.value? key with
    | none => return otherwise
    | some text =>
      match Text.Ascii.integer? text with
      | some number => return number
      | none => failWith 1 (Bytes.ofString (words ++ ": ") ++ Quotation.cited text)
  let step ← integer "i" 1 "invalid line number increment"
  let first ← integer "v" 1 "invalid starting line number"
  let width := (← integer "w" 6 "invalid line number field width").toNat
  let manner := (given.value? "n").getD (Bytes.ofString "rn")
  let gap := (given.value? "s").getD [0x09]
  let style := (given.value? "b").getD [ascii 't']
  let bytes ← contents given.operands
  let mut number := first
  for line in linesOf 0x0A bytes do
    if style = [ascii 'a'] || (style = [ascii 't'] && line ≠ []) then
      putLine (numbered manner width number ++ gap ++ line)
      number := number + step
    else putLine (List.replicate (width + gap.length) 0x20 ++ line)

/-- A line with blanks in place of tabs. -/
def expanded (stops : List Nat) (onlyLeading : Bool) : Nat → Bool → Bytes → Bytes
  | _, _, [] => []
  | column, isLeading, b :: rest =>
    if b = 0x09 && (isLeading || !onlyLeading) then
      let next :=
        match stops with
        | [] => column + 8 - column % 8
        | [width] => column + width - column % max 1 width
        | stops => (stops.find? (column < ·)).getD (column + 1)
      List.replicate (next - column) 0x20 ++ expanded stops onlyLeading next isLeading rest
    else if b = 0x0A then b :: expanded stops onlyLeading 0 true rest
    else
      b :: expanded stops onlyLeading (if b = 0x08 then column - 1 else column + 1)
        (isLeading && b = 0x20) rest

/-- Puts blanks in place of tabs. -/
def expand (arguments : List Bytes) : Tool Unit := do
  let given ← options [toggle "i" ["initial"], setting "t" ["tabs"]] arguments 1
  let list := (given.value? "t").getD []
  let stops ←
    match if list = [] then some [] else
      (Text.splitAt (ascii ',') list).mapM Text.Ascii.decimal? with
    | some stops => pure stops
    | none =>
      failWith 1 (Bytes.ofString "tab size contains invalid character(s): " ++ Quotation.cited list)
  if stops.contains 0 then
    failWith 1 (Bytes.ofString "tab size cannot be 0")
  forContents given.operands fun bytes => put (expanded stops (given.has "i") 0 true bytes)

/-- A line with tabs in place of blanks; `held` blanks have been read. -/
def condensed (width : Nat) (everywhere : Bool) : Nat → Nat → Bool → Bytes → Bytes
  | _, held, _, [] => List.replicate held 0x20
  | column, held, isLeading, b :: rest =>
    if b = 0x0A then List.replicate held 0x20 ++ b :: condensed width everywhere 0 0 true rest
    else if b = 0x20 && (isLeading || everywhere) then
      let column := column + 1
      if column % max 1 width = 0 then
        (if held = 0 && !isLeading then 0x20 else 0x09)
          :: condensed width everywhere column 0 isLeading rest
      else condensed width everywhere column (held + 1) isLeading rest
    else if b = 0x09 && (isLeading || everywhere) then
      b :: condensed width everywhere (column + width - column % max 1 width) 0 isLeading rest
    else
      List.replicate held 0x20 ++ b :: condensed width everywhere (column + 1) 0 false rest

/-- Puts tabs in place of blanks. -/
def unexpand (arguments : List Bytes) : Tool Unit := do
  let given ← options [toggle "a" ["all"], setting "t" ["tabs"], toggle "first" ["first-only"]]
    arguments 1
  let width := ((given.value? "t").bind Text.Ascii.decimal?).getD 8
  let everywhere := (given.has "a" || given.has "t") && !given.has "first"
  forContents given.operands fun bytes => put (condensed width everywhere 0 0 true bytes)

/-- The letters behind the name of a part of a file. -/
def suffix (length number : Nat) (inDigits : Bool) : Bytes :=
  let base := if inDigits then 10 else 26
  let rec go : Nat → Nat → Bytes → Bytes
    | 0, _, text => text
    | length + 1, number, text =>
      let digit := number % base
      let letter := if inDigits then UInt8.ofNat (48 + digit) else UInt8.ofNat (97 + digit)
      go length (number / base) (letter :: text)
  go length number []

/-- Parts of so many elements. -/
def chunks {α : Type} (size : Nat) : Nat → List α → List (List α)
  | 0, _ => []
  | _, [] => []
  | fuel + 1, list => list.take (max 1 size) :: chunks size fuel (list.drop (max 1 size))

/-- Writes a file in parts. -/
def split (arguments : List Bytes) : Tool Unit := do
  let given ← options [setting "l" ["lines"], setting "b" ["bytes"], setting "a" ["suffix-length"],
    toggle "d", ⟨"numeric", ["numeric-suffixes"], .perhaps⟩, setting "n" ["number"],
    setting "additional" ["additional-suffix"], toggle "verbose" ["verbose"]] arguments 1
  let number (key : String) : Option Nat := (given.value? key).bind Text.Ascii.decimal?
  let bytes ← contents (given.operands.take 1)
  let parts :=
    match number "b" with
    | some size => chunks size (bytes.length + 1) bytes
    | none =>
      let pieces := Text.splitAt 0x0A bytes
      let lines := pieces.dropLast.map (· ++ [0x0A])
      let lines := lines ++ (pieces.getLast?.toList.filter (· ≠ []))
      (chunks ((number "l").getD 1000) (lines.length + 1) lines).map List.flatten
  let front := ((given.operands.drop 1).head?).getD [ascii 'x']
  let length := (number "a").getD 2
  let inDigits := given.has "d" || given.has "numeric"
  for (place, part) in (List.range parts.length).zip parts do
    let path := front ++ suffix length place inDigits ++ (given.value? "additional").getD []
    match ← ask (Kernel.Request.openPath ⟨path⟩ Purpose.writing 0o666) with
    | .ok descriptor =>
      let _ ← perform (Activity.write descriptor part)
      closeInput descriptor
    | .error fault => complainOf path fault

end ChangelogSql.Utility.Column
