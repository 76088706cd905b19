import ChangelogSql.Programs.Machine
import ChangelogSql.Utility.Input
import ChangelogSql.Utility.Launch
import ChangelogSql.Utility.Records.Program
import ChangelogSql.Utility.Records.Table

/-!
What is kept while records are gone through: the variables, the record with its
fields, and what is open. Fields are parted when one of them is wanted, and the
record is put together again when it is wanted after one of them changed.
-/

namespace ChangelogSql.Utility.Records

open Text (ascii)
open Files Programs Kernel
open Numeral

/-- What stands in a variable. A table that two variables share is none until one of them is used as
a table. -/
inductive Slot where
  | single (value : Value)
  | table (index : Nat)
  | shared (index : Nat)
  deriving Inhabited

/-- What is open under a name. -/
structure Stream where
  name : Bytes
  /-- It is written to. -/
  isOutput : Bool
  descriptor : Nat
  process? : Option Nat
  /-- What is written later, the last first. -/
  held : List Bytes
  size : Nat
  deriving Inhabited

/-- What is kept. -/
structure Memory where
  script : Script
  globals : Array Slot
  locals : Array Slot
  tables : Array Table
  record : Bytes
  /-- The fields from the first one on, once they are wanted. -/
  fields? : Option (Array Value)
  /-- A field changed since the record was put together. -/
  isStale : Bool
  /-- The record does not come from outside as it is. -/
  isMade : Bool
  /-- Line ends part fields. -/
  linesPart : Bool
  streams : List Stream
  /-- Expressions that have been read. -/
  matchers : List (Bytes × Matcher)
  active : Array Bool
  seed : Nat
  generator : Nat
  code : Nat
  depth : Nat
  /-- The input that is being read, if there is any. -/
  input? : Option Nat
  /-- Which argument is next. -/
  argument : Nat
  /-- Some argument was a file. -/
  hasFile : Bool
  isOver : Bool

/-- Why what is being done is left. -/
inductive Jump where
  | next
  | nextFile
  | exit
  | leave (value : Value)
  | stop
  | goOn

/-- A step of the work on records. -/
abbrev Work (α : Type) := ExceptT Jump (StateT Memory Tool) α

namespace Work

variable {α : Type}

/-- What a program does that works on records. -/
def tool (step : Tool α) : Work α :=
  ExceptT.lift (StateT.lift step)

/-- The value of a variable, which is nothing where it stands for a table. -/
def valueOfSlot : Slot → Value
  | .single value => value
  | _ => .missing

def slot (place : Place) : Work Slot := do
  let memory ← get
  match place with
  | .global index => return memory.globals[index]?.getD (.single .missing)
  | .parameter index => return memory.locals[index]?.getD (.single .missing)

def setSlot (place : Place) (slot : Slot) : Work Unit :=
  modify fun memory =>
    match place with
    | .global index => { memory with globals := memory.globals.setIfInBounds index slot }
    | .parameter index => { memory with locals := memory.locals.setIfInBounds index slot }

def special (which : Special) : Work Value := do
  return valueOfSlot (← slot (.global which.index))

def setSpecial (which : Special) (value : Value) : Work Unit :=
  setSlot (.global which.index) (.single value)

/-- The format in which numbers become texts. -/
def keyFormat : Work Bytes := do
  match ← special .keyFormat with
  | .text bytes | .given bytes => return bytes
  | _ => return Bytes.ofString "%.6g"

/-- A value as a text. -/
def bytesOf (value : Value) : Work Bytes := do
  match value with
  | .real number => return textOf (← keyFormat) number
  | value => return value.toBytes []

def specialBytes (which : Special) : Work Bytes := do
  bytesOf (← special which)

/-- Complains about something that goes wrong while the program runs, and ends it. -/
def failWith (text : Bytes) : Work α :=
  tool (Tool.failWith 2 text)

/-- The matcher of a text. -/
def matcherFrom (read : Bytes → Except Matcher.Refusal Matcher) (source : Bytes) :
    Work Matcher := do
  match read source with
  | .ok matcher => return matcher
  | .error refusal =>
    failWith (Bytes.ofString ("line 0: regular expression compile failed (" ++ refusal.message
      ++ ")\n") ++ source)

/-- How many expressions are kept at most. -/
def matcherLimit : Nat := 40

/-- The matcher of a text, which is kept. -/
def matcherOf (source : Bytes) : Work Matcher := do
  match (← get).matchers.lookup source with
  | some matcher => return matcher
  | none =>
    let matcher ← matcherFrom Matcher.ofBytes source
    modify fun memory =>
      { memory with matchers := ((source, matcher) :: memory.matchers).take matcherLimit }
    return matcher

/-- How a text is parted. -/
inductive Separator where
  | blanks
  | everywhere
  | matcher (matcher : Matcher)

/-- The separator that a text describes. -/
def separatorOf (source : Bytes) : Work Separator := do
  if source = [ascii ' '] then return .blanks
  else if source = [] then return .everywhere
  else
    match source with
    | [_] => return .matcher (← matcherFrom Matcher.ofSeparator source)
    | _ => return .matcher (← matcherOf source)

/-- A blank, a tab or the end of a line. -/
def isGap (b : UInt8) : Bool :=
  isBlank b || b = 0x0A

/-- The parts of a text between blanks. `fuel` bounds its length. -/
def blankParts : Nat → Bytes → List Bytes
  | 0, _ => []
  | fuel + 1, bytes =>
    let bytes := bytes.dropWhile isGap
    if bytes = [] then []
    else
      let part := bytes.takeWhile fun b => !isGap b
      part :: blankParts fuel (bytes.drop part.length)

/-- The parts of a text between matches. `fuel` bounds its length. -/
def matchedParts (matcher : Matcher) (text : ByteArray) : Nat → Nat → List Bytes
  | 0, start => [(text.extract start text.size).toList]
  | fuel + 1, start =>
    match matcher.searchMore? text start with
    | some (found, stop) =>
      (text.extract start found).toList :: matchedParts matcher text fuel stop
    | none => [(text.extract start text.size).toList]

/-- The parts of a text; an empty text has none. -/
def partsOf (separator : Separator) (bytes : Bytes) : List Bytes :=
  if bytes = [] then []
  else
    match separator with
    | .blanks => blankParts (bytes.length + 1) bytes
    | .everywhere => bytes.map fun b => [b]
    | .matcher matcher => matchedParts matcher ⟨bytes.toArray⟩ (bytes.length + 1) 0

/-- The separator of fields. Where records are parted by empty lines since the separator was set, line
ends part fields too. -/
def fieldSeparator : Work Separator := do
  let source ← specialBytes .fieldSeparator
  if (← get).linesPart && source ≠ [ascii ' '] then
    let source :=
      match source with
      | [b] => if Matcher.signs.contains b then [ascii '\\', b] else source
      | _ => source
    if source = [] then return .everywhere
    else return .matcher (← matcherOf (source ++ Bytes.ofString "|\n"))
  else separatorOf source

/-- The fields of the record. -/
def fields : Work (Array Value) := do
  match (← get).fields? with
  | some fields => return fields
  | none =>
    let separator ← fieldSeparator
    let parts := partsOf separator (← get).record
    let fields := (parts.map Value.given).toArray
    modify fun memory => { memory with fields? := some fields }
    setSpecial .fieldCount (.real (.ofWhole fields.size))
    return fields

/-- Replaces the record by another one. -/
def setRecord (bytes : Bytes) (isMade : Bool) : Work Unit :=
  modify fun memory => { memory with record := bytes, fields? := none, isStale := false, isMade }

/-- The record as it stands. -/
def record : Work Bytes := do
  if (← get).isStale then
    let between ← specialBytes .outputSeparator
    let texts ← (← fields).toList.mapM bytesOf
    let bytes := (texts.intersperse between).flatten
    modify fun memory => { memory with record := bytes, isStale := false, isMade := true }
    return bytes
  else return (← get).record

/-- How many fields there can be. -/
def fieldLimit : Nat := 1000000

/-- Replaces the fields, which changes the record. -/
def setFields (fields : Array Value) : Work Unit := do
  modify fun memory => { memory with fields? := some fields, isStale := true }
  setSpecial .fieldCount (.real (.ofWhole fields.size))

/-- So many fields: those that are missing are empty. -/
def resized (fields : Array Value) (count : Nat) : Array Value :=
  fields.take count ++ Array.replicate (count - fields.size) (.text [])

/-- Complains about something that goes wrong in the middle of a record, and ends the program. -/
def failInRecord (text : Bytes) : Work α := do
  let file ← specialBytes .fileName
  let lines := (← special .fileRecordCount).toNumber.truncated
  let records := (← special .recordCount).toNumber.truncated
  failWith (Bytes.ofString "run time error: " ++ text ++ Bytes.ofString "\n\tFILENAME=\"" ++ file
    ++ Bytes.ofString "\" FNR=" ++ Text.Ascii.ofInt lines ++ Bytes.ofString " NR="
    ++ Text.Ascii.ofInt records)

/-- A number as the number of a field, or of how many there are. -/
def boundedNumber (number : Binary) (complaint : Int → Bytes) : Work Nat := do
  let value := number.truncated
  if value < 0 then failInRecord (complaint value)
  else if (fieldLimit : Int) < value then
    failInRecord (Bytes.ofString "maximum number of fields exceeded")
  else return value.toNat

/-- The number of a field. -/
def fieldNumber (number : Binary) : Work Nat :=
  boundedNumber number fun value =>
    Bytes.ofString "negative field index $" ++ Text.Ascii.ofInt value

def field (number : Nat) : Work Value := do
  if number = 0 then
    let bytes ← record
    return if (← get).isMade then .text bytes else .given bytes
  else return ((← fields)[number - 1]?).getD (.given [])

def setField (number : Nat) (value : Value) : Work Unit := do
  if number = 0 then
    let isMade : Bool :=
      match value with
      | .text _ => true
      | _ => false
    setRecord (← bytesOf value) isMade
  else
    let fields ← fields
    let fields := if fields.size < number then resized fields number else fields
    setFields (fields.setIfInBounds (number - 1) value)

/-- The value of a variable. The count of fields is known once they are parted. -/
def valueAt (place : Place) : Work Value := do
  if place = .global Special.fieldCount.index then
    let _ ← fields
  return valueOfSlot (← slot place)

/-- Gives a value to a variable, with what follows from that for the record. -/
def setValueAt (place : Place) (value : Value) : Work Unit := do
  match place with
  | .global index =>
    if index = Special.fieldCount.index then
      let count ← boundedNumber value.toNumber fun _ =>
        Bytes.ofString "negative value assigned to NF"
      setFields (resized (← fields) count)
      setSlot place (.single value)
    else
      if index = Special.fieldSeparator.index then
        let _ ← fields
        modify fun memory => { memory with linesPart := false }
      else if index = Special.recordSeparator.index then
        let _ ← fields
        let bytes ← bytesOf value
        modify fun memory => { memory with linesPart := bytes = [] }
      else if index = Special.outputSeparator.index || index = Special.keyFormat.index then
        let _ ← record
      setSlot place (.single value)
  | _ => setSlot place (.single value)

/-- The table that a variable stands for. -/
def tableOf (place : Place) : Work Nat := do
  match ← slot place with
  | .table index => return index
  | .shared index =>
    setSlot place (.table index)
    return index
  | .single .missing =>
    let index := (← get).tables.size
    modify fun memory => { memory with tables := memory.tables.push .empty }
    setSlot place (.table index)
    return index
  | .single _ => failInRecord (Bytes.ofString "a single value is used as a table")

/-- Changes a table, and tells something about it. -/
def alterTable (place : Place) (change : Table → Table × α) : Work α := do
  let index ← tableOf place
  modifyGet fun memory =>
    let table := memory.tables[index]?.getD .empty
    let tables := memory.tables.setIfInBounds index .empty
    let (table, answer) := change table
    (answer, { memory with tables := tables.setIfInBounds index table })

/-- The key that a value is: whole numbers stay numbers. -/
def keyOf (value : Value) : Work Key := do
  match value with
  | .real number =>
    if number.isWhole && number.truncated.natAbs < twoTo 53 then return .number number.truncated
    else return .text (← bytesOf value)
  | value => return .text (← bytesOf value)

/-- The key that several values are together. -/
def keyOfAll (values : List Value) : Work Key := do
  match values with
  | [value] => keyOf value
  | values =>
    let between ← specialBytes .keySeparator
    let texts ← values.mapM bytesOf
    return .text (texts.intersperse between).flatten

end Work

end ChangelogSql.Utility.Records
