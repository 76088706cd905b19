import ChangelogSql.Text.Search
import ChangelogSql.Utility.Input
import ChangelogSql.Utility.Launch
import ChangelogSql.Utility.Option

/-!
Calling a program with arguments that are read: as many at a time as there is
room for, so many at a time, or one line at a time in the place of a word.
-/

namespace ChangelogSql.Utility.Gathering

open Text (ascii)
open Files Programs Kernel
open Tool

/-- An argument that has been read, and whether a line ends with it. -/
structure Item where
  text : Bytes
  endsLine : Bool

/-- Where a reader of arguments is. -/
inductive Place where
  /-- Between arguments. -/
  | between
  | inside
  /-- In quotes, which this byte ends. -/
  | quoted (quote : UInt8)
  /-- Behind a backslash. -/
  | escaped

/-- What has been read of arguments: the one being read, backwards, and whether it had quotes; the
byte in front; and the arguments before it, the last first. -/
structure Reading where
  place : Place
  word : Bytes
  isQuoted : Bool
  last : UInt8
  items : List Item

/-- The arguments of a text, and the quote that was not closed, if there is one. Where `keepsBlanks`
is set, only ends of lines stand between arguments. -/
def itemsFrom (keepsBlanks : Bool) : Bytes → Reading → List Item × Option UInt8
  | [], reading =>
    let whole := { reading with items := ⟨reading.word.reverse, true⟩ :: reading.items }
    match reading.place with
    | .quoted quote => (reading.items.reverse, some quote)
    | _ => ((if reading.word = [] then reading else whole).items.reverse, none)
  | b :: rest, reading =>
    let isBlank := b = ascii ' ' || b = ascii '\t'
    let next := { reading with last := b }
    let ended (endsLine : Bool) : Reading :=
      { next with
        place := .between, word := [], isQuoted := false
        items := ⟨reading.word.reverse, endsLine⟩ :: reading.items }
    let taken : Reading := { next with place := .inside, word := b :: reading.word }
    match reading.place with
    | .quoted quote =>
      if b = 0x0A then (reading.items.reverse, some quote)
      else if b = quote then
        itemsFrom keepsBlanks rest { next with place := .inside, isQuoted := true }
      else itemsFrom keepsBlanks rest { taken with place := .quoted quote }
    | .escaped => itemsFrom keepsBlanks rest taken
    | .between | .inside =>
      let isBetween := match reading.place with
        | .between => true
        | _ => false
      if isBetween && Text.Ascii.isSpace b then itemsFrom keepsBlanks rest next
      else if b = 0x0A then
        if reading.word = [] && !reading.isQuoted then
          itemsFrom keepsBlanks rest { next with place := .between }
        else
          let wasBlank := reading.last = ascii ' ' || reading.last = ascii '\t'
          itemsFrom keepsBlanks rest (ended !wasBlank)
      else if !keepsBlanks && (isBlank || Text.Ascii.isSpace b) then
        itemsFrom keepsBlanks rest (ended false)
      else if b = ascii '\\' then itemsFrom keepsBlanks rest { next with place := .escaped }
      else if b = 0x22 || b = 0x27 then itemsFrom keepsBlanks rest { next with place := .quoted b }
      else itemsFrom keepsBlanks rest taken

/-- The arguments of a text in which a byte ends each of them. -/
def itemsBetween (delimiter : UInt8) (text : Bytes) : List Item :=
  let pieces := Text.splitAt delimiter text
  let pieces := if pieces.getLast? = some [] then pieces.dropLast else pieces
  pieces.map fun piece => ⟨piece, true⟩

/-- How many of the arguments are taken at a time. -/
inductive Measure where
  /-- As many as there is room for. -/
  | room
  | arguments (count : Nat)
  | lines (count : Nat)
  /-- One line, which is put in the place of a word. -/
  | place (word : Bytes)
  deriving DecidableEq

/-- How a program is called with what has been read. -/
structure Manner where
  loader : Loader
  call : Call
  /-- The program and its first arguments. -/
  words : List Bytes
  measure : Measure
  /-- How many bytes a call has at most. -/
  room : Nat
  isStrict : Bool
  tells : Bool
  keepsInput : Bool
  /-- The program is called at least once. -/
  always : Bool

/-- How many bytes words take, each with a byte at its end. -/
def sizeOf (words : List Bytes) : Nat :=
  words.foldl (fun size word => size + word.length + 1) 0

/-- Calls the program once. -/
def start (manner : Manner) (words : List Bytes) : Tool Unit := do
  if manner.tells then
    emit (Text.joinWith 0x20 (words.map Quotation.shown) ++ [0x0A])
  match words with
  | [] => pure ()
  | name :: arguments =>
    let prepare := if manner.keepsInput then pure () else withoutInput
    match ← runAfter prepare manner.loader manner.call.environment name arguments with
    | .refused fault =>
      failWith (if fault = .notFound then 127 else 126)
        (name ++ Bytes.ofString (": " ++ fault.reason))
    | .ended (.exited 0) => pure ()
    | .ended (.exited 255) =>
      failWith 124 (name ++ Bytes.ofString ": exited with status 255; aborting")
    | .ended (.exited _) => setCode 123
    | .ended (.killed signal) =>
      failWith 125 (name ++ Bytes.ofString s!": terminated by signal {signal}")

/-- Calls the program for every line, with the line in the place of a word. -/
def startEach (manner : Manner) (word : Bytes) : List Item → Tool Unit
  | [] => return ()
  | item :: rest => do
    start manner (manner.words.map (Text.replaceAll word item.text))
    startEach manner word rest

/-- Calls the program again and again until nothing is left. `held` has not been used, the last one
first, and has so many lines; `hasRun` tells that the program has been called. The answer is what is
left over and whether the program has been called. -/
def startAll (manner : Manner) : List Bytes → Nat → Bool → List Item → Tool (List Bytes × Bool)
  | held, _, hasRun, [] => return (held, hasRun)
  | held, lines, hasRun, item :: rest => do
    let size := sizeOf manner.words + sizeOf held + item.text.length + 1
    let isBeyond := manner.room < size
    if manner.room < sizeOf manner.words + item.text.length + 1 then
      let reason :=
        if item.text = [] then "cannot fit single argument within argument list size limit"
        else "argument line too long"
      failWith 1 (Bytes.ofString reason)
    if isBeyond then
      let isCounted : Bool :=
        match manner.measure with
        | .lines _ | .arguments _ => true
        | .room | .place _ => false
      if manner.isStrict && isCounted then
        failWith 1 (Bytes.ofString "argument list too long")
      start manner (manner.words ++ held.reverse)
    let held := if isBeyond then [item.text] else item.text :: held
    let lines := (if isBeyond then 0 else lines) + if item.endsLine then 1 else 0
    let isFull : Bool :=
      match manner.measure with
      | .lines count => count ≤ lines
      | .arguments count => count ≤ held.length
      | _ => false
    if isFull then
      start manner (manner.words ++ held.reverse)
      startAll manner [] 0 true rest
    else startAll manner held lines (hasRun || isBeyond) rest

def forms : List Form :=
  [toggle "0" ["null"], setting "a" ["arg-file"], setting "d" ["delimiter"], setting "E",
    ⟨"e", ["eof"], .perhaps⟩, setting "I", ⟨"i", ["replace"], .perhaps⟩, setting "L",
    ⟨"l", ["max-lines"], .perhaps⟩, setting "n" ["max-args"], toggle "o" ["open-tty"],
    setting "P" ["max-procs"], toggle "p" ["interactive"], toggle "r" ["no-run-if-empty"],
    setting "s" ["max-chars"], toggle "t" ["verbose"], toggle "x" ["exit"],
    toggle "limits" ["show-limits"], setting "slot" ["process-slot-var"]]

/-- A number behind an option, which must be at least `least`. -/
def number (letter : String) (least : Nat) (text : Bytes) : Tool Nat := do
  match Text.Ascii.integer? text with
  | none =>
    misuse 1 (Bytes.ofString "invalid number \"" ++ text
      ++ Bytes.ofString ("\" for -" ++ letter ++ " option"))
  | some value =>
    if value < least then
      misuse 1 (Bytes.ofString "value " ++ text
        ++ Bytes.ofString s!" for -{letter} option should be >= {least}")
    else return value.toNat

/-- The byte that a delimiter stands for. -/
def delimiterOf (text : Bytes) : Tool UInt8 := do
  match text with
  | [b] => return b
  | 0x5C :: letter :: rest =>
    if rest = [] && letter ≠ ascii '0' then
      let simple := [('a', 7), ('b', 8), ('f', 12), ('n', 10), ('r', 13), ('t', 9), ('v', 11),
        ('\\', 92)]
      match simple.lookup (Char.ofNat letter.toNat) with
      | some byte => return byte
      | none => pure ()
    let digits := letter :: rest
    if letter = ascii 'x' && rest ≠ [] && rest.all fun b => (Text.Ascii.hexDigit? b).isSome then
      return UInt8.ofNat ((rest.filterMap Text.Ascii.hexDigit?).foldl (fun n d => 16 * n + d) 0)
    else if digits.all Text.Ascii.isOctal then return UInt8.ofNat (Text.Ascii.value 8 digits)
    else
      failWith 1 (Bytes.ofString "Invalid escape sequence " ++ text
        ++ Bytes.ofString " in input delimiter specification.")
  | _ =>
    failWith 1 (Bytes.ofString "Invalid input delimiter specification " ++ text
      ++ Bytes.ofString (": the delimiter must be either a single character or an escape sequence "
        ++ "starting with \\."))

/-- How many bytes a call has at most where nothing is said about that. -/
def usualRoom : Nat := 131072

/-- A measure in place of another one, which is told of. -/
def measureInstead (before after : Measure) (option : String) : Tool Measure := do
  let former? :=
    match before, after with
    | .room, _ => none
    | .arguments _, .arguments _ | .lines _, .lines _ | .place _, .place _ => none
    | .arguments _, _ => some "--max-args"
    | .lines _, _ => some "--max-lines"
    | .place _, _ => some "--replace"
  match former? with
  | some former =>
    warn (Bytes.ofString ("warning: options " ++ former ++ " and " ++ option
      ++ " are mutually exclusive, ignoring previous " ++ former ++ " value"))
  | none => pure ()
  return after

/-- The measure that options ask for; one takes the place of another. -/
def measureOf : Measure → List (String × Option Bytes) → Tool Measure
  | measure, [] => return measure
  | measure, (key, value?) :: rest => do
    let value := value?.getD (Bytes.ofString "\x7b\x7d")
    let next ←
      if key = "I" || key = "i" then measureInstead measure (.place value) "--replace/-I/-i"
      else if key = "L" then
        measureInstead measure (.lines (← number "L" 1 value)) "-L"
      else if key = "l" then
        let count ← value?.mapM (number "l" 1)
        measureInstead measure (.lines (count.getD 1)) "--max-lines/-l"
      else if key = "n" then
        let count ← number "n" 1 value
        match measure, count with
        | .place word, 1 => pure (.place word)
        | _, _ => measureInstead measure (.arguments count) "--max-args/-n"
      else pure measure
    measureOf next rest

/-- Everything that arguments are read from. -/
def source (given : Given) : Tool Bytes := do
  match given.value? "a" with
  | none =>
    match ← readAll 0 with
    | .ok bytes => return bytes
    | .error _ => return []
  | some path =>
    match ← openInput path with
    | .error fault =>
      failWith 1 (Bytes.ofString "Cannot open input file " ++ Quotation.quoted path
        ++ Bytes.ofString (": " ++ fault.reason))
    | .ok descriptor =>
      let bytes ← readAll descriptor
      closeInput descriptor
      return bytes.toOption.getD []

/-- Calls a program with arguments that are read. -/
def gather (loader : Loader) (call : Call) : Tool Unit := do
  let given ← leadingOptions forms call.arguments 1
  let measure ← measureOf .room given.options
  let room ← (given.value? "s").mapM (number "s" 1)
  let delimiter? ←
    match given.last? ["0", "d"] with
    | some "d" => (given.value? "d").mapM delimiterOf
    | some _ => pure (some 0)
    | none => pure none
  let words := if given.operands = [] then [Bytes.ofString "echo"] else given.operands
  let manner : Manner := {
    loader, call, words, measure, room := room.getD usualRoom
    isStrict := given.has "x", tells := given.has "t", keepsInput := given.has "a"
    always := !given.has "r" }
  if given.has "p" then
    failWith 1 (Bytes.ofString
      "failed to open /dev/tty for reading: No such device or address")
  if manner.room < sizeOf words then
    failWith 1 (Bytes.ofString "cannot fit single argument within argument list size limit")
  let text ← source given
  let keepsBlanks := match measure with
    | .place _ => true
    | _ => false
  let (items, open?) :=
    match delimiter? with
    | some delimiter => (itemsBetween delimiter text, none)
    | none => itemsFrom keepsBlanks text ⟨.between, [], false, 0, []⟩
  let items := items.map fun item => { item with text := item.text.takeWhile (· ≠ 0) }
  if delimiter?.isNone && text.contains 0 then
    warn (Bytes.ofString ("WARNING: a NUL character occurred in the input.  It cannot be passed "
      ++ "through in the argument list.  Did you mean to use the --null option?"))
  let last? := (given.value? "E").or (given.value? "e")
  let items :=
    match last? with
    | some last => items.takeWhile fun item => delimiter?.isSome || item.text ≠ last
    | none => items
  let complain : Tool Unit := do
    match open? with
    | some quote =>
      let kind := if quote = 0x22 then "double" else "single"
      failWith 1 (Bytes.ofString ("unmatched " ++ kind ++ " quote; by default quotes are special to "
        ++ "xargs unless you use the -0 option"))
    | none => pure ()
  match measure with
  | .place word =>
    startEach manner word items
    complain
  | _ =>
    let (held, hasRun) ← startAll manner [] 0 false items
    complain
    if held ≠ [] || (manner.always && !hasRun) then
      start manner (words ++ held.reverse)

end ChangelogSql.Utility.Gathering
