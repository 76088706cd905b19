import ChangelogSql.Shell.Pattern
import ChangelogSql.Utility.Listing
import ChangelogSql.Utility.Matching

/-!
The program that selects lines by what occurs in them.
-/

namespace ChangelogSql.Utility.Grep

open Text (ascii)
open Files Kernel
open Tool
open Expression (Program)

/-- How lines are selected. -/
structure Selection where
  programs : List Program
  isInverted : Bool
  wholeWords : Bool
  wholeLines : Bool

/-- What is shown of what is selected. -/
structure Manner where
  selection : Selection
  names : Bool
  numbers : Bool
  offsets : Bool
  onlyMatches : Bool
  onlyCount : Bool
  /-- Only the names are shown of files with selected lines, or of those without. -/
  onlyNames : Option Bool
  isQuiet : Bool
  isSilent : Bool
  most? : Option Nat
  before : Nat
  after : Nat
  hasContext : Bool
  ending : UInt8
  /-- The byte behind a name. -/
  zeroNames : Bool
  asText : Bool
  label : Bytes
  isDeep : Bool
  skipsDirectories : Bool
  included : List Bytes
  excluded : List Bytes
  excludedDirectories : List Bytes

/-- A match has no parts of words at its sides. -/
def isWord (text : ByteArray) (start stop : Nat) : Bool :=
  !(0 < start && Program.isWordAt text (start - 1)) && !Program.isWordAt text stop

/-- A match of whole words that begins at a place, the longest first. -/
def wordAt (program : Program) (text : ByteArray) (start : Nat) : Nat → Option (Nat × Nat)
  | 0 => none
  | room + 1 =>
    let limit := start + room
    let part := if limit = text.size then text else text.extract 0 limit
    match program.matchAt part start with
    | none => none
    | some found =>
      if isWord text start found.stop then some (start, found.stop)
      else
        match found.stop - start with
        | 0 => none
        | length + 1 =>
          if length + 1 ≤ room then wordAt program text start (length + 1) else none

/-- The first match of one of some programs from a place on, the longest of those that begin there. -/
def firstMatch (selection : Selection) (text : ByteArray) (start : Nat) : Option (Nat × Nat) :=
  let at' (place : Nat) (program : Program) : Option (Nat × Nat) :=
    if selection.wholeLines then
      if place ≠ 0 then none
      else
        match program.matchAt text 0 with
        | some found => if found.stop = text.size then some (0, text.size) else none
        | none => none
    else if selection.wholeWords then wordAt program text place (text.size - place + 1)
    else (program.matchAt text place).map fun found => (place, found.stop)
  (List.range (text.size + 1 - start)).findSome? fun offset =>
    let found := selection.programs.filterMap (at' (start + offset))
    found.foldl
      (fun best? one =>
        match best? with
        | some best => if best.2 < one.2 then some one else some best
        | none => some one)
      none

/-- A line is selected. -/
def selects (selection : Selection) (line : Bytes) : Bool :=
  (firstMatch selection ⟨line.toArray⟩ 0).isSome != selection.isInverted

/-- The matches in a line that are not empty, with their places. -/
def matchesIn (selection : Selection) (text : ByteArray) : Nat → Nat → List (Nat × Nat)
  | 0, _ => []
  | fuel + 1, start =>
    if text.size < start then []
    else
      match firstMatch selection text start with
      | none => []
      | some (start, stop) =>
        if start = stop then matchesIn selection text fuel (stop + 1)
        else (start, stop) :: matchesIn selection text fuel stop

/-- A line with its number and the place where it begins. -/
structure Line where
  number : Nat
  offset : Nat
  text : Bytes

/-- The lines of a text. -/
def linesOf (ending : UInt8) (bytes : Bytes) : List Line :=
  let pieces := Text.splitAt ending bytes
  let pieces := if pieces.getLast? = some [] then pieces.dropLast else pieces
  (pieces.foldl
    (fun (lines, number, offset) text =>
      (⟨number, offset, text⟩ :: lines, number + 1, offset + text.length + 1))
    (([] : List Line), 1, 0)).1.reverse

/-- What stands in front of a line. -/
def lead (manner : Manner) (name : Bytes) (sign : UInt8) (line : Line) (offset : Nat) : Bytes :=
  (if manner.names then name ++ [if manner.zeroNames then 0 else sign] else [])
    ++ (if manner.numbers then Text.Ascii.ofNat line.number ++ [sign] else [])
    ++ (if manner.offsets then Text.Ascii.ofNat (line.offset + offset) ++ [sign] else [])

/-- How far going through the lines of a file has come. -/
structure Progress where
  count : Nat
  /-- Lines that have not been shown, the last first. -/
  held : List Line
  /-- How many lines behind a selected one are still shown. -/
  owed : Nat
  /-- The number of the last line that was shown. -/
  shown : Nat

/-- Shows a line. -/
def showLine (manner : Manner) (name : Bytes) (sign : UInt8) (line : Line) : Tool Unit :=
  put (lead manner name sign line 0 ++ line.text ++ [manner.ending])

/-- Shows a selected line, with what stands before it. -/
def showSelected (manner : Manner) (name : Bytes) (isBinary : Bool) (line : Line)
    (progress : Progress) : Tool Progress := do
  if manner.onlyCount || manner.onlyNames.isSome || manner.isQuiet || isBinary then
    return { progress with count := progress.count + 1 }
  else
    let held := (progress.held.take manner.before).reverse
    let first := (held.head?.getD line).number
    if manner.hasContext && progress.shown ≠ 0 && progress.shown + 1 < first then
      put (Bytes.ofString "--\n")
    if manner.onlyMatches then
      if !manner.selection.isInverted then
        let text : ByteArray := ⟨line.text.toArray⟩
        for (start, stop) in matchesIn manner.selection text (text.size + 2) 0 do
          put (lead manner name (ascii ':') line start
            ++ (line.text.drop start).take (stop - start) ++ [manner.ending])
    else
      for other in held do
        showLine manner name (ascii '-') other
      showLine manner name (ascii ':') line
    return ⟨progress.count + 1, [], manner.after, line.number⟩

/-- Goes through the lines of a file. -/
def showLines (manner : Manner) (name : Bytes) (isBinary : Bool) :
    List Line → Progress → Tool Progress
  | [], progress => return progress
  | line :: rest, progress => do
    let isFull := manner.most?.any (· ≤ progress.count)
    if isFull && progress.owed = 0 then return progress
    else if !isFull && selects manner.selection line.text then
      let progress ← showSelected manner name isBinary line progress
      if manner.isQuiet || manner.onlyNames.isSome || isBinary then return progress
      else showLines manner name isBinary rest progress
    else if progress.owed ≠ 0 && !manner.onlyCount && !manner.onlyMatches then
      showLine manner name (ascii '-') line
      showLines manner name isBinary rest
        { progress with owed := progress.owed - 1, shown := line.number }
    else
      showLines manner name isBinary rest { progress with held := line :: progress.held.take manner.before }

/-- What has come of a search. -/
structure Result where
  hasSelected : Bool
  hasFailed : Bool

/-- Searches an open file. -/
def searchOpen (manner : Manner) (name : Bytes) (descriptor : Nat) : Tool Result := do
  match ← readAll descriptor with
  | .error fault =>
    unless manner.isSilent do
      warn (Quotation.shown name ++ Bytes.ofString (": " ++ fault.reason))
    return ⟨false, true⟩
  | .ok bytes =>
    let isBinary := bytes.contains 0 && !manner.asText && manner.ending ≠ 0
    let hides := isBinary && !manner.onlyCount && manner.onlyNames.isNone && !manner.isQuiet
    let progress ← showLines manner name hides (linesOf manner.ending bytes) ⟨0, [], 0, 0⟩
    let ending : UInt8 := if manner.zeroNames then 0 else 0x0A
    if hides && progress.count ≠ 0 then
      flush
      warn (name ++ Bytes.ofString ": binary file matches")
    if manner.onlyCount && !manner.isQuiet && manner.onlyNames.isNone then
      let front :=
        if manner.names then name ++ [if manner.zeroNames then 0 else ascii ':'] else []
      putLine (front ++ Text.Ascii.ofNat progress.count)
    match manner.onlyNames with
    | some wanted =>
      if !manner.isQuiet && wanted = decide (progress.count ≠ 0) then
        put (name ++ [ending])
    | none => pure ()
    return ⟨progress.count ≠ 0, false⟩

/-- A name fits one of some patterns. -/
def fitsAny (patterns : List Bytes) (name : Bytes) : Bool :=
  patterns.any fun pattern =>
    Shell.Pattern.accepts
      (Shell.Pattern.ofLetters (pattern.map fun b => ⟨b, true⟩)) name

/-- Searches what stands at a path, and what is in it if that is wanted. -/
def search (manner : Manner) : Nat → Bool → Bytes → Tool Result
  | 0, _, _ => return ⟨false, false⟩
  | depth + 1, isNamed, path => do
    let seen ← view
    let isInput := path = [ascii '-'] && isNamed
    let name := if isInput then manner.label else path
    let base := Transfer.nameOf path
    let isDirectory := !isInput && seen.isDirectory ⟨path⟩
    let isLink := (Transfer.linkTarget? seen path).isSome
    if isDirectory && manner.isDeep then
      if !isNamed && (isLink || fitsAny manner.excludedDirectories base) then
        return ⟨false, false⟩
      let mut result : Result := ⟨false, false⟩
      for name in Transfer.namesIn seen path do
        let inner := if path = [] then name else Entry.within path name
        let one ← search manner depth false inner
        result := ⟨result.hasSelected || one.hasSelected, result.hasFailed || one.hasFailed⟩
      return result
    else if isDirectory then
      unless manner.isSilent || manner.skipsDirectories do
        warn (Quotation.shown path ++ Bytes.ofString (": " ++ Fault.isDirectory.reason))
      return ⟨false, !manner.skipsDirectories⟩
    else if !isNamed && isLink then return ⟨false, false⟩
    else if !isInput && ((!manner.included.isEmpty && !fitsAny manner.included base)
        || fitsAny manner.excluded base) then
      return ⟨false, false⟩
    else
      match ← openInput path with
      | .error fault =>
        unless manner.isSilent do
          warn (Quotation.shown path ++ Bytes.ofString (": " ++ fault.reason))
        return ⟨false, true⟩
      | .ok descriptor =>
        let result ← searchOpen manner name descriptor
        closeInput descriptor
        return result

/-- Complains about how the program was called, and ends it. -/
def misused {α : Type} (complaint? : Option Bytes) : Tool α := do
  match complaint? with
  | some complaint => warn complaint
  | none => pure ()
  let name := (← get).name
  emit (Bytes.ofString "Usage: " ++ name ++ Bytes.ofString " [OPTION]... PATTERNS [FILE]...\nTry '"
    ++ name ++ Bytes.ofString " --help' for more information.\n")
  setCode 2
  stop

/-- The options. -/
def forms : List Utility.Form :=
  [toggle "E" ["extended-regexp"], toggle "F" ["fixed-strings"], toggle "G" ["basic-regexp"],
    toggle "P" ["perl-regexp"], setting "e" ["regexp"], setting "f" ["file"],
    toggle "i" ["ignore-case"], toggle "y", toggle "nocase" ["no-ignore-case"],
    toggle "v" ["invert-match"], toggle "w" ["word-regexp"], toggle "x" ["line-regexp"],
    toggle "c" ["count"], ⟨"color", ["color", "colour"], .perhaps⟩,
    toggle "L" ["files-without-match"], toggle "l" ["files-with-matches"],
    setting "m" ["max-count"], toggle "o" ["only-matching"], toggle "q" ["quiet", "silent"],
    toggle "s" ["no-messages"], toggle "b" ["byte-offset"], toggle "H" ["with-filename"],
    toggle "h" ["no-filename"], setting "label" ["label"], toggle "n" ["line-number"],
    toggle "T" ["initial-tab"], toggle "Z" ["null"], setting "A" ["after-context"],
    setting "B" ["before-context"], setting "C" ["context"], toggle "a" ["text"],
    setting "binary" ["binary-files"], setting "D" ["devices"], setting "d" ["directories"],
    setting "exclude" ["exclude"], setting "exclude-dir" ["exclude-dir"],
    setting "include" ["include"], toggle "r" ["recursive"], toggle "R" ["dereference-recursive"],
    toggle "buffered" ["line-buffered"], toggle "U" ["binary"], toggle "z" ["null-data"],
    toggle "I"]

/-- Arguments in which a number behind a dash is written out as the context that it means. -/
def modern (arguments : List Bytes) : List Bytes :=
  arguments.map fun argument =>
    match argument with
    | 0x2D :: digit :: rest =>
      if Text.Ascii.isDigit digit && rest.all Text.Ascii.isDigit then
        Bytes.ofString "--context=" ++ digit :: rest
      else argument
    | argument => argument

/-- The tree of a text that means itself. -/
def literal (text : Bytes) : Expression.Whole :=
  ⟨text.foldr (fun b tree => .sequence (.set (Expression.only b)) tree) .empty, 0⟩

/-- The programs of patterns. -/
def programsOf (given : Given) (patterns : List Bytes) : Tool (List Program) := do
  let ignoresCase := given.last? ["i", "y", "nocase"] |>.any (· ≠ "nocase")
  let kind := (given.last? ["E", "F", "G", "P"]).getD "G"
  patterns.mapM fun pattern => do
    if kind = "F" then return (literal pattern).program ignoresCase false
    else
      if kind = "G" && pattern.head? = some (ascii '[') && (Bytes.ofString "[:").isPrefixOf pattern
          && (Bytes.ofString ":]").isSuffixOf pattern && 4 < pattern.length then
        failWith 2 (Bytes.ofString "character class syntax is [[:space:]], not [:space:]")
      if kind = "E" && pattern.head?.any fun b => b = ascii '*' || b = ascii '+' || b = ascii '?' then
        warn (Bytes.ofString "warning: " ++ pattern.take 1 ++ Bytes.ofString " at start of expression")
      let form := if kind = "G" then Expression.basic else Expression.selecting
      match Expression.compile form ignoresCase false pattern with
      | .ok program => return program
      | .error fault => failWith 2 (Bytes.ofString fault.message)

/-- Selects lines. -/
def grep (start : List Bytes) (arguments : List Bytes) : Tool Unit := do
  whenUnheard fun reason => (2, ["write error: " ++ reason])
  let given ←
    match Options.ofArguments forms true (start ++ modern arguments) with
    | .ok given => pure given
    | .error refusal => misused (some refusal)
  let context (key : String) : Tool (Option Nat) :=
    match given.value? key with
    | none => return none
    | some text =>
      match Text.Ascii.decimal? text with
      | some number => return some number
      | none => failWith 2 (text ++ Bytes.ofString ": invalid context length argument")
  let around? ← context "C"
  let after? := (← context "A").or around?
  let before? := (← context "B").or around?
  let most? ←
    match given.value? "m" with
    | none => pure none
    | some text =>
      match Text.Ascii.integer? text with
      | some number => pure (if number < 0 then none else some number.toNat)
      | none => failWith 2 (Bytes.ofString "invalid max count")
  let mut sources : List Bytes := []
  for (key, value?) in given.options do
    let value := value?.getD []
    if key = "e" then
      sources := sources ++ Text.splitAt 0x0A value
    if key = "f" then
      match ← openInput value with
      | .error fault => failWith 2 (Quotation.shown value ++ Bytes.ofString (": " ++ fault.reason))
      | .ok descriptor =>
        match ← readAll descriptor with
        | .error fault => failWith 2 (Quotation.shown value ++ Bytes.ofString (": " ++ fault.reason))
        | .ok bytes =>
          let lines := Text.splitAt 0x0A bytes
          sources := sources ++ (if lines.getLast? = some [] then lines.dropLast else lines)
        closeInput descriptor
  let hasSource := given.has "e" || given.has "f"
  if !hasSource && given.operands.isEmpty then
    misused none
  let patterns := if hasSource then sources else Text.splitAt 0x0A (given.operands.headD [])
  let paths := if hasSource then given.operands else given.operands.drop 1
  let programs ← programsOf given patterns.eraseDups
  let isDeep := given.has "r" || given.has "R" || given.value? "d" = some (Bytes.ofString "recurse")
  let values (key : String) : List Bytes :=
    given.options.filterMap fun entry => if entry.1 = key then entry.2 else none
  let manner : Manner :=
    { selection := ⟨programs, given.has "v", given.has "w", given.has "x"⟩
      names :=
        match given.last? ["H", "h"] with
        | some key => key = "H"
        | none => 1 < paths.length || isDeep
      numbers := given.has "n", offsets := given.has "b", onlyMatches := given.has "o"
      onlyCount := given.has "c"
      onlyNames := (given.last? ["l", "L"]).map (· = "l")
      isQuiet := given.has "q", isSilent := given.has "s", most?
      before := before?.getD 0, after := after?.getD 0
      hasContext := before?.any (· ≠ 0) || after?.any (· ≠ 0)
      ending := if given.has "z" then 0 else 0x0A, zeroNames := given.has "Z"
      asText := given.has "a" || given.value? "binary" = some (Bytes.ofString "text")
      label := (given.value? "label").getD (Bytes.ofString "(standard input)"), isDeep
      skipsDirectories := given.value? "d" = some (Bytes.ofString "skip")
      included := values "include", excluded := values "exclude"
      excludedDirectories := values "exclude-dir" }
  let inPlace := paths.isEmpty && isDeep
  let paths := if inPlace then [[]] else if paths.isEmpty then [[ascii '-']] else paths
  let mut result : Result := ⟨false, false⟩
  for path in paths do
    unless manner.isQuiet && result.hasSelected do
      let one ←
        if inPlace then do
          let mut all : Result := ⟨false, false⟩
          for name in Transfer.namesIn (← view) [ascii '.'] do
            let one ← search manner Entry.depthLimit false name
            all := ⟨all.hasSelected || one.hasSelected, all.hasFailed || one.hasFailed⟩
          pure all
        else search manner Entry.depthLimit true path
      result := ⟨result.hasSelected || one.hasSelected, result.hasFailed || one.hasFailed⟩
  let isFine := result.hasSelected && (manner.isQuiet || !result.hasFailed)
  setCode (if isFine then 0 else if result.hasFailed then 2 else 1)

end ChangelogSql.Utility.Grep
