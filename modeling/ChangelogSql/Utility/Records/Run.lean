import ChangelogSql.Utility.Calendar
import ChangelogSql.Utility.Records.Grammar
import ChangelogSql.Utility.Records.Layout
import ChangelogSql.Utility.Records.Stream

/-!
What a program for records does. Terms are worked out from the left to the
right, and what is assigned to is known before what is assigned.
-/

namespace ChangelogSql.Utility.Records.Work

open Text (ascii)
open Files Programs Kernel
open Numeral

/-- How deep calls can be nested. -/
def depthLimit : Nat := 1000

/-- Something that can be assigned to, once it is known. -/
inductive Target where
  | variable (place : Place)
  | element (place : Place) (key : Key)
  | field (number : Nat)

def Target.get : Target → Work Value
  | .variable place => valueAt place
  | .element place key => alterTable place (·.get key)
  | .field number => Work.field number

def Target.set (value : Value) : Target → Work Unit
  | .variable place => setValueAt place value
  | .element place key => alterTable place fun table => (table.set key value, ())
  | .field number => Work.setField number value

/-- A text from outside that is put somewhere. -/
def Target.give (bytes : Bytes) (target : Target) : Work Unit :=
  target.set (.given bytes)

def real (number : Binary) : Value :=
  .real number

def whole (number : Int) : Value :=
  .real (.ofWhole number)

def truth (value : Bool) : Value :=
  .real (.ofBool value)

/-- What stands for a match: the signs of a replacement. -/
inductive Piece where
  | byte (b : UInt8)
  | found

/-- The pieces of a replacement. An ampersand stands for the match; of backslashes in front of it, two
are one, and a single one lets it mean itself. `slashes` is how many there are. -/
def pieces : Bytes → Nat → List Piece
  | [], slashes => List.replicate slashes (.byte 0x5C)
  | b :: rest, slashes =>
    if b = 0x5C then pieces rest (slashes + 1)
    else if b = 0x26 then
      List.replicate (slashes / 2) (.byte 0x5C)
        ++ (if slashes % 2 = 0 then .found else .byte b) :: pieces rest 0
    else List.replicate slashes (.byte 0x5C) ++ .byte b :: pieces rest 0

def replaced (pieces : List Piece) (found : Bytes) : Bytes :=
  pieces.flatMap fun
    | .byte b => [b]
    | .found => found

/-- A text with every match replaced, from a place on, and how many there are. A match of nothing
right behind another match does not count. `fuel` bounds its length. -/
def replacedAll (matcher : Matcher) (pieces : List Piece) (text : ByteArray) :
    Nat → Nat → Option Nat → List Bytes → Nat → Bytes × Nat
  | 0, start, _, before, count =>
    (((text.extract start text.size).toList :: before).reverse.flatten, count)
  | fuel + 1, start, last?, before, count =>
    match matcher.search? text start with
    | none => (((text.extract start text.size).toList :: before).reverse.flatten, count)
    | some (found, stop) =>
      let between := (text.extract start found).toList
      if found = stop then
        let here := if last? = some found then [] else replaced pieces []
        let count := if last? = some found then count else count + 1
        if text.size ≤ found then ((here :: between :: before).reverse.flatten, count)
        else
          let kept := (text.extract found (found + 1)).toList
          replacedAll matcher pieces text fuel (found + 1) none (kept :: here :: between :: before)
            count
      else
        let here := replaced pieces (text.extract found stop).toList
        replacedAll matcher pieces text fuel stop (some stop) (here :: between :: before)
          (count + 1)

/-- A text with its first match replaced, where there is one. -/
def replacedOnce? (matcher : Matcher) (pieces : List Piece) (bytes : Bytes) : Option Bytes :=
  let text : ByteArray := ⟨bytes.toArray⟩
  (matcher.search? text 0).map fun (start, stop) =>
    bytes.take start ++ replaced pieces ((bytes.drop start).take (stop - start)) ++ bytes.drop stop

/-- The nearest whole number, the even one in the middle between two. -/
def nearestWhole (number : Binary) : Int :=
  let (dividend, divisor) := number.magnitude
  let value : Int := roundedQuotient dividend divisor
  if number.isNegative then -value else value

/-- The part of a text from a place on, with so many bytes or with all that follow. Places that are
no bytes of the text count too, and are left out. -/
def partOf (bytes : Bytes) (start : Binary) (count? : Option Binary) : Bytes :=
  let length : Int := bytes.length
  let far : Binary := .ofWhole (length + 10)
  let bounded (number : Binary) : Binary :=
    match number with
    | .undefined _ => .ofWhole (-1)
    | number => if far.less number then far else number
  let start := bounded start
  let low := if start.isFinite then nearestWhole start else -length - 10
  let high :=
    match count? with
    | none => length + 1
    | some count =>
      let stop := bounded (start.plus count)
      if stop.isFinite then nearestWhole stop else -length - 10
  let first := max low 1
  let last := min high (length + 1)
  if first < last then (bytes.drop (first - 1).toNat).take (last - first).toNat else []

/-- The place of a text in another one, counted from one on; zero where it is not there. -/
def placeIn (text part : Bytes) : Nat :=
  if part = [] then 1
  else
    let rec go : Nat → Bytes → Nat
      | _, [] => 0
      | place, b :: rest => if part.isPrefixOf (b :: rest) then place else go (place + 1) rest
    go 1 text

/-- The next number of a row that looks like chance. -/
def nextChance (state : Nat) : Nat :=
  (state * 6364136223846793005 + 1442695040888963407) % twoTo 64

/-- The number of seconds since the beginning of 1970. -/
def now : Work Nat :=
  tool do
    let clock ← Tool.ask (Kernel.Request.look fun _ system => system.disk.clock)
    return clock / 1000000000

/-- What a function of one number gives. -/
def function? : Builtin → Option (Float → Float)
  | .sin => some Float.sin
  | .cos => some Float.cos
  | .exp => some Float.exp
  | .log => some Float.log
  | .sqrt => some Float.sqrt
  | _ => none

/-- Fills a table with the parts of a text. -/
def split (place : Place) (text : Bytes) (separator : Separator) : Work Value := do
  let parts := partsOf separator text
  alterTable place fun _ => (Table.ofValues (parts.map Value.given), ())
  return whole parts.length

/-- Starts the row of numbers that look like chance anew. -/
def seed (number : Nat) : Work Value := do
  let memory ← get
  set { memory with seed := number, generator := nextChance (nextChance number) }
  return whole memory.seed

/-- A number between zero and one that looks like chance. -/
def chance : Work Value := do
  modifyGet fun memory =>
    let state := nextChance memory.generator
    (.real (.ofQuotient .double false (state / twoTo 11) (twoTo 53)), { memory with generator := state })

/-- What values look like in a format. -/
def laidOut (function : String) (values : List Value) (partial? : Bytes → Work Unit) :
    Work Bytes := do
  match values with
  | [] => return []
  | format :: values =>
    let format ← bytesOf format
    match Layout.ofValues (← keyFormat) format values with
    | (bytes, none) => return bytes
    | (bytes, some problem) =>
      partial? bytes
      failInRecord (problem.message function format)

/-- What a function that every program knows gives for values. -/
def applied (host : Host) (builtin : Builtin) (values : List Value) : Work Value := do
  match builtin, values with
  | .length, [] => return whole (← record).length
  | .length, value :: _ => return whole (← bytesOf value).length
  | .index, [text, part] => return whole (placeIn (← bytesOf text) (← bytesOf part))
  | .substr, text :: start :: rest =>
    return .text (partOf (← bytesOf text) start.toNumber (rest.head?.map Value.toNumber))
  | .sprintf, values =>
    let likely (value : Value) : Value :=
      match value with
      | .text bytes => .given bytes
      | value => value
    let values := values.take 1 ++ (values.drop 1).map likely
    return .text (← laidOut "sprintf" values fun _ => pure ())
  | .toUpper, [text] => return .text ((← bytesOf text).map Text.Ascii.upper)
  | .toLower, [text] => return .text ((← bytesOf text).map Text.Ascii.lower)
  | .atan2, [y, x] =>
    return .real (.ofFloat (Float.atan2 y.toNumber.toFloat x.toNumber.toFloat))
  | .int, [value] => return .real value.toNumber.wholePart
  | .rand, _ => chance
  | .srand, [] => seed (← now)
  | .srand, value :: _ => seed value.toNumber.truncated.natAbs
  | .system, [command] => return whole (statusNumber (← runCommand host (← bytesOf command)))
  | .close, [name] => return whole (← closeName (← bytesOf name))
  | .flush, _ =>
    flushAll
    return whole 0
  | .time, _ => return whole (← now)
  | .date, values =>
    let form ←
      match values with
      | [] => pure (Bytes.ofString "%c")
      | form :: _ => bytesOf form
    let seconds : Int ←
      match values with
      | _ :: value :: _ => pure value.toNumber.truncated
      | _ => do pure (← now : Int)
    let moment := Moment.ofSeconds seconds
    return .text (Bytes.ofString (moment.inForm (Bytes.shown form).toList))
  | builtin, [value] =>
    match function? builtin with
    | some function => return .real (value.toNumber.through function)
    | none => return .missing
  | _, _ => return .missing

/-- What is printed without a format: values with the separator between them and the end behind
them. -/
def printedLine (values : List Value) : Work Bytes := do
  let texts ← values.mapM fun value => do
    match value with
    | .real number =>
      match wholeDigits? number with
      | some digits => return digits
      | none => return formatted (← specialBytes .outputFormat) number
    | value => return value.toBytes []
  let between ← specialBytes .outputSeparator
  return (texts.intersperse between).flatten ++ (← specialBytes .outputEnd)

mutual

/-- The value of a term. -/
def value (host : Host) : Nat → Term → Work Value
  | 0, _ => throw .exit
  | fuel + 1, term => do
    match term with
    | .real number => return .real number
    | .text bytes => return .text bytes
    | .matcher matcher => return truth (matcher.occursIn (← record))
    | .grouped inner => value host fuel inner
    | .variable _ | .element .. | .field _ => (← target host fuel term).get
    | .assign left right =>
      let left ← target host fuel left
      let result ← value host fuel right
      left.set result
      return result
    | .update arithmetic left right =>
      let left ← target host fuel left
      let change ← value host fuel right
      let result := real (arithmetic.apply (← left.get).toNumber change.toNumber)
      left.set result
      return result
    | .step isFirst arithmetic left =>
      let left ← target host fuel left
      let before := (← left.get).toNumber
      let result := arithmetic.apply before .one
      left.set (.real result)
      return .real (if isFirst then result else before)
    | .calculate arithmetic first second =>
      let first ← value host fuel first
      let second ← value host fuel second
      return .real (arithmetic.apply first.toNumber second.toNumber)
    | .signed isNegative operand =>
      let number := (← value host fuel operand).toNumber
      return .real (if isNegative then number.negated else number)
    | .opposite operand => return truth !(← value host fuel operand).isTrue
    | .compare comparison first second =>
      let first ← value host fuel first
      let second ← value host fuel second
      return truth (comparison.holds (first.order (← keyFormat) second))
    | .join first second =>
      let first ← bytesOf (← value host fuel first)
      let second ← bytesOf (← value host fuel second)
      return .text (first ++ second)
    | .both first second =>
      if (← value host fuel first).isTrue then return truth (← value host fuel second).isTrue
      else return truth false
    | .either first second =>
      if (← value host fuel first).isTrue then return truth true
      else return truth (← value host fuel second).isTrue
    | .choose condition first second =>
      if (← value host fuel condition).isTrue then value host fuel first
      else value host fuel second
    | .isLike isNegated subject pattern =>
      let subject ← bytesOf (← value host fuel subject)
      let matcher ← matcherIn host fuel pattern
      return truth (matcher.occursIn subject != isNegated)
    | .isKey subscripts place =>
      let key ← keyOfAll (← values host fuel subscripts)
      return truth (← alterTable place fun table => table.hasKey key)
    | .call function arguments => call host fuel function arguments
    | .apply builtin arguments => application host fuel builtin arguments
    | .readNext target? =>
      match ← nextRecord argumentLimit with
      | none => return whole 0
      | some bytes =>
        store host fuel bytes target?
        return whole 1
    | .readFile name target? =>
      let name ← bytesOf (← value host fuel name)
      readFrom host fuel false name target?
    | .readCommand command target? =>
      let command ← bytesOf (← value host fuel command)
      readFrom host fuel true command target?

/-- The values of terms. -/
def values (host : Host) : Nat → List Term → Work (List Value)
  | 0, _ => throw .exit
  | _, [] => return []
  | fuel + 1, term :: rest => do
    let first ← value host fuel term
    return first :: (← values host fuel rest)

/-- What a term says that something is assigned to. -/
def target (host : Host) : Nat → Term → Work Target
  | 0, _ => throw .exit
  | fuel + 1, term => do
    match term with
    | .element place subscripts =>
      let key ← keyOfAll (← values host fuel subscripts)
      let _ ← alterTable place (·.get key)
      return .element place key
    | .field number => return .field (← fieldNumber (← value host fuel number).toNumber)
    | .variable place => return .variable place
    | _ => throw .exit

/-- Puts a record that was read where it belongs. -/
def store (host : Host) : Nat → Bytes → Option Term → Work Unit
  | 0, _, _ => throw .exit
  | _, bytes, none => setRecord bytes false
  | fuel + 1, bytes, some term => do (← target host fuel term).give bytes

/-- Reads a record of a file or a command. -/
def readFrom (host : Host) : Nat → Bool → Bytes → Option Term → Work Value
  | 0, _, _, _ => throw .exit
  | fuel + 1, isCommand, name, target? => do
    match ← nextOf host isCommand name with
    | none => return whole (-1)
    | some none => return whole 0
    | some (some bytes) =>
      store host fuel bytes target?
      return whole 1

/-- The matcher that a term is, or that its text describes. -/
def matcherIn (host : Host) : Nat → Term → Work Matcher
  | 0, _ => throw .exit
  | fuel + 1, term => do
    match term with
    | .matcher matcher => return matcher
    | term => matcherOf (← bytesOf (← value host fuel term))

/-- What stands in a parameter for an argument. A variable that nothing was put in can become a table
there. -/
def argument (host : Host) : Nat → Term → Work Slot
  | 0, _ => throw .exit
  | fuel + 1, term => do
    match term with
    | .variable place =>
      match ← slot place with
      | .table index => return .table index
      | .shared index => return .shared index
      | .single .missing =>
        if place = .global Special.fieldCount.index then
          return .single (← valueAt place)
        else
          let index := (← get).tables.size
          modify fun memory => { memory with tables := memory.tables.push .empty }
          setSlot place (.shared index)
          return .shared index
      | .single _ => return .single (← valueAt place)
    | term => return .single (← value host fuel term)

/-- Calls a function. -/
def call (host : Host) : Nat → Nat → List Term → Work Value
  | 0, _, _ => throw .exit
  | fuel + 1, function, arguments => do
    let memory ← get
    match memory.script.functions[function]? with
    | none => throw .exit
    | some body =>
      if depthLimit < memory.depth then
        failWith (Bytes.ofString "program limit exceeded: eval stack size=1024")
      let given ← slots host fuel arguments
      let missing := List.replicate (body.parameters - given.length) (Slot.single .missing)
      let before := (← get).locals
      modify fun memory =>
        { memory with locals := (given ++ missing).toArray, depth := memory.depth + 1 }
      let result ← tryCatch
        (do
          statement host fuel body.body
          return Value.missing)
        fun jump =>
          match jump with
          | .leave value => return value
          | jump => throw jump
      modify fun memory => { memory with locals := before, depth := memory.depth - 1 }
      return result

/-- What stands in the parameters for arguments. -/
def slots (host : Host) : Nat → List Term → Work (List Slot)
  | 0, _ => throw .exit
  | _, [] => return []
  | fuel + 1, term :: rest => do
    let first ← argument host fuel term
    return first :: (← slots host fuel rest)

/-- Calls a function that every program knows. -/
def application (host : Host) : Nat → Builtin → List Term → Work Value
  | 0, _, _ => throw .exit
  | fuel + 1, builtin, arguments => do
    match builtin, arguments with
    | .length, [.variable place] =>
      match ← slot place with
      | .table _ | .shared _ => return whole (← alterTable place fun table => (table, table.size))
      | .single _ => applied host .length [← valueAt place]
    | .split, text :: .variable place :: rest =>
      let text ← bytesOf (← value host fuel text)
      match rest with
      | [] => split place text (← fieldSeparator)
      | .matcher matcher :: _ => split place text (.matcher matcher)
      | separator :: _ =>
        split place text (← separatorOf (← bytesOf (← value host fuel separator)))
    | .matchAt, [text, pattern] =>
      let text ← bytesOf (← value host fuel text)
      let matcher ← matcherIn host fuel pattern
      let found? := matcher.search? ⟨text.toArray⟩ 0
      let start : Int := (found?.map fun found => (found.1 : Int) + 1).getD 0
      let length : Int := (found?.map fun found => (found.2 : Int) - found.1).getD (-1)
      setSpecial .matchStart (whole start)
      setSpecial .matchLength (whole length)
      return whole start
    | .sub, pattern :: replacement :: rest => substitution host fuel false pattern replacement rest
    | .gsub, pattern :: replacement :: rest => substitution host fuel true pattern replacement rest
    | builtin, arguments => applied host builtin (← values host fuel arguments)

/-- Replaces one match or all of them in a target, or in the record; how many there were. -/
def substitution (host : Host) : Nat → Bool → Term → Term → List Term → Work Value
  | 0, _, _, _, _ => throw .exit
  | fuel + 1, isGlobal, pattern, replacement, rest => do
    let matcher ← matcherIn host fuel pattern
    let pieces := pieces (← bytesOf (← value host fuel replacement)) 0
    let target? ←
      match rest with
      | [] => pure (some (Target.field 0))
      | term :: _ =>
        if Grammar.isTarget term then some <$> target host fuel term else pure none
    let text ←
      match target?, rest with
      | some target, _ => bytesOf (← target.get)
      | none, term :: _ => bytesOf (← value host fuel term)
      | none, [] => pure []
    let (result?, count) : Option Bytes × Nat :=
      if isGlobal then
        let (result, count) :=
          replacedAll matcher pieces ⟨text.toArray⟩ (text.length + 2) 0 none [] 0
        (if count = 0 then none else some result, count)
      else
        let result? := replacedOnce? matcher pieces text
        (result?, if result?.isSome then 1 else 0)
    match result?, target? with
    | some result, some target => target.set (.text result)
    | _, _ => pure ()
    return whole count

/-- Does what a statement says. -/
def statement (host : Host) : Nat → Statement → Work Unit
  | 0, _ => throw .exit
  | fuel + 1, statement' => do
    match statement' with
    | .evaluate term =>
      let _ ← value host fuel term
    | .print isFormatted arguments target? =>
      let given ← values host fuel arguments
      let channel? ←
        match target? with
        | none => pure none
        | some (channel, term) =>
          pure (some (channel, ← bytesOf (← value host fuel term)))
      let bytes ←
        if isFormatted then laidOut "printf" given (put host channel?)
        else if arguments.isEmpty then do
          pure ((← record) ++ (← specialBytes .outputEnd))
        else printedLine given
      put host channel? bytes
    | .block statements => inOrder host fuel statements
    | .choose condition first second? =>
      if (← value host fuel condition).isTrue then statement host fuel first
      else
        match second? with
        | some second => statement host fuel second
        | none => pure ()
    | .loop condition body => loop host fuel (some condition) (.block []) body
    | .loopAfter body condition =>
      if ← once host fuel body then loop host fuel (some condition) (.block []) body
    | .count start condition? step body =>
      statement host fuel start
      loop host fuel condition? step body
    | .forKeys key place body =>
      let keys ← alterTable place Table.keys
      forKeys host fuel key keys body
    | .next => throw .next
    | .nextFile => throw .nextFile
    | .exit code? =>
      match code? with
      | some term =>
        let code := (← value host fuel term).toNumber.truncated
        modify fun memory => { memory with code := (code % 256).toNat }
      | none => pure ()
      throw .exit
    | .leave value? =>
      match value? with
      | some term => throw (.leave (← value host fuel term))
      | none => throw (.leave .missing)
    | .stop => throw .stop
    | .goOn => throw .goOn
    | .clear place => alterTable place fun _ => (.empty, ())
    | .erase place subscripts =>
      let key ← keyOfAll (← values host fuel subscripts)
      alterTable place fun table => (table.erase key, ())

/-- Statements one after the other. -/
def inOrder (host : Host) : Nat → List Statement → Work Unit
  | 0, _ => throw .exit
  | _, [] => pure ()
  | fuel + 1, first :: rest => do
    statement host fuel first
    inOrder host fuel rest

/-- Does once what is within a loop; the answer is whether the loop goes on. -/
def once (host : Host) : Nat → Statement → Work Bool
  | 0, _ => throw .exit
  | fuel + 1, body =>
    tryCatch
      (do
        statement host fuel body
        return true)
      fun jump =>
        match jump with
        | .stop => return false
        | .goOn => return true
        | jump => throw jump

/-- Does something as long as a condition holds. -/
def loop (host : Host) : Nat → Option Term → Statement → Statement → Work Unit
  | 0, _, _, _ => throw .exit
  | fuel + 1, condition?, step, body => do
    let goesOn ←
      match condition? with
      | some condition => do pure (← value host fuel condition).isTrue
      | none => pure true
    if goesOn then
      if ← once host fuel body then
        statement host fuel step
        loop host fuel condition? step body

/-- Does something for every key. -/
def forKeys (host : Host) : Nat → Term → List Bytes → Statement → Work Unit
  | 0, _, _, _ => throw .exit
  | _, _, [], _ => pure ()
  | fuel + 1, key, first :: rest, body => do
    (← target host fuel key).set (.text first)
    if ← once host fuel body then forKeys host fuel key rest body

end

end ChangelogSql.Utility.Records.Work
