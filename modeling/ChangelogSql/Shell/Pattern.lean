import ChangelogSql.Text.Ascii

/-!
Patterns for names and for the branches of a selection: `*`, `?` and bracketed
sets. Only letters that are active take part; any letter can also stand for
itself.
-/

namespace ChangelogSql.Shell

open Text (ascii)

/-- A byte of a word after expansion. An active one may have a meaning in a pattern. -/
structure Letter where
  byte : UInt8
  active : Bool
  deriving DecidableEq

namespace Pattern

/-- A member of a bracketed set. -/
inductive Member where
  | span (low high : UInt8)
  | kind (kind : Text.Ascii.Kind)
  deriving DecidableEq

/-- One element of a pattern. -/
inductive Element where
  | byte (byte : UInt8)
  | anyByte
  | anyRun
  | set (isNegated : Bool) (members : List Member)
  deriving DecidableEq

/-- A letter that is active and has a given byte. -/
def isActive (b : UInt8) (letter : Letter) : Bool :=
  letter.active && letter.byte = b

/-- The kind of bytes that letters name between colons, and how many letters the name takes. -/
def kind? (letters : List Letter) : Option (Text.Ascii.Kind × Nat) :=
  Text.Ascii.kinds.findSome? fun (name, kind) =>
    let text := Bytes.ofString (":" ++ name ++ ":]")
    let here := letters.take text.length
    if here.map Letter.byte = text && here.all Letter.active then some (kind, text.length)
    else none

/-- The members of a set up to the closing bracket, and how many letters they take with it. A closing
bracket that comes first is a member. `fuel` bounds how many members are read. -/
def members : Nat → Bool → List Letter → Option (List Member × List Letter)
  | 0, _, _ => none
  | _, _, [] => none
  | fuel + 1, isFirst, letter :: rest =>
    if isActive (ascii ']') letter && !isFirst then some ([], rest)
    else
      match if isActive (ascii '[') letter then kind? rest else none with
      | some (kind, count) =>
        (members fuel false (rest.drop count)).map fun (others, rest) =>
          (.kind kind :: others, rest)
      | none =>
        match rest with
        | dash :: high :: further =>
          if isActive (ascii '-') dash && !isActive (ascii ']') high then
            (members fuel false further).map fun (others, rest) =>
              (.span letter.byte high.byte :: others, rest)
          else
            (members fuel false rest).map fun (others, rest) =>
              (.span letter.byte letter.byte :: others, rest)
        | _ =>
          (members fuel false rest).map fun (others, rest) =>
            (.span letter.byte letter.byte :: others, rest)

/-- A bracketed set after its opening bracket. -/
def set? (letters : List Letter) : Option (Element × List Letter) :=
  let isNegated := letters.head?.any fun letter =>
    isActive (ascii '!') letter || isActive (ascii '^') letter
  let letters := if isNegated then letters.drop 1 else letters
  (members (letters.length + 1) true letters).map fun (members, rest) =>
    (.set isNegated members, rest)

/-- The elements that letters spell. A bracket without its partner stands for itself; `fuel` bounds
how many elements are read. -/
def elements : Nat → List Letter → List Element
  | 0, _ => []
  | _, [] => []
  | fuel + 1, letter :: rest =>
    if isActive (ascii '*') letter then .anyRun :: elements fuel rest
    else if isActive (ascii '?') letter then .anyByte :: elements fuel rest
    else if isActive (ascii '[') letter then
      match set? rest with
      | some (element, rest) => element :: elements fuel rest
      | none => .byte letter.byte :: elements fuel rest
    else .byte letter.byte :: elements fuel rest

/-- The pattern that letters spell. -/
def ofLetters (letters : List Letter) : List Element :=
  elements letters.length letters

/-- The place of a byte in the order in which those with the highest bit come first. -/
def rank (b : UInt8) : UInt8 :=
  b + 0x80

/-- A byte is a member of a set. -/
def isMember (members : List Member) (b : UInt8) : Bool :=
  members.any fun
    | .span low high => rank low ≤ rank b && rank b ≤ rank high
    | .kind kind => kind.holds b

/-- An element matches a single byte. -/
def Element.accepts (b : UInt8) : Element → Bool
  | .byte expected => b = expected
  | .anyByte => true
  | .anyRun => true
  | .set isNegated members => isMember members b != isNegated

/-- The places in a pattern that can be reached from one of them without a byte: those behind runs
of any length. -/
def settle (pattern : List Element) (places : List Bool) : List Bool :=
  let rec go : Bool → List Element → List Bool → List Bool
    | reached, .anyRun :: pattern, here :: places =>
      (here || reached) :: go (here || reached) pattern places
    | reached, _ :: pattern, here :: places => (here || reached) :: go false pattern places
    | reached, [], here :: _ => [here || reached]
    | _, _, [] => []
  go false pattern places

/-- The places in a pattern after one more byte. -/
def step (pattern : List Element) (b : UInt8) (places : List Bool) : List Bool :=
  let rec go : Bool → List Element → List Bool → List Bool
    | reached, .anyRun :: pattern, here :: places => (here || reached) :: go false pattern places
    | reached, element :: pattern, here :: places =>
      reached :: go (here && element.accepts b) pattern places
    | reached, [], _ => [reached]
    | _, _, [] => []
  settle pattern (go false pattern places)

/-- The places in a pattern before the first byte. -/
def begin? (pattern : List Element) : List Bool :=
  settle pattern (true :: pattern.map fun _ => false)

/-- For every beginning of a byte string, the shortest first, whether the pattern matches all of
it. -/
def acceptedBeginnings (pattern : List Element) (bytes : Bytes) : List Bool :=
  let rec go : List Bool → Bytes → List Bool
    | places, [] => [places.getLast?.getD false]
    | places, b :: rest => places.getLast?.getD false :: go (step pattern b places) rest
  go (begin? pattern) bytes

/-- A pattern matches a whole byte string. -/
def accepts (pattern : List Element) (bytes : Bytes) : Bool :=
  (bytes.foldl (fun places b => step pattern b places) (begin? pattern)).getLast?.getD false

/-- A bracket whose set is closed before the next separator. -/
def opensSet (letters : List Letter) : Bool :=
  let letters := letters.takeWhile fun letter => letter.byte ≠ ascii '/'
  (set? letters).isSome

/-- Letters that can match more than themselves. -/
def isPattern : List Letter → Bool
  | [] => false
  | letter :: rest =>
    isActive (ascii '*') letter || isActive (ascii '?') letter
      || (isActive (ascii '[') letter && opensSet rest) || isPattern rest

/-- The first of some texts with nulls between them. -/
def leading (bytes : Bytes) : Bytes :=
  bytes.takeWhile (· ≠ 0)

/-- A byte string without the shortest or longest beginning that a pattern matches. Of texts with
nulls between them only the first is looked at, and all go with it. -/
def withoutFront (pattern : List Element) (longest : Bool) (bytes : Bytes) : Bytes :=
  let first := leading bytes
  let accepted := acceptedBeginnings pattern first
  let counts := (List.range accepted.length).zip accepted
  if longest && accepted[first.length]? = some true then []
  else
    let counts := if longest then counts.reverse else counts
    match counts.find? (·.2) with
    | some (count, _) => bytes.drop count
    | none => bytes

/-- A byte string without the shortest or longest end that a pattern matches. Of texts with nulls
between them each is looked at by itself, and only the first for the longest end. -/
def withoutBack (pattern : List Element) (longest : Bool) (bytes : Bytes) : Bytes :=
  let counts := List.range ((if longest then leading bytes else bytes).length + 1)
  let counts := if longest then counts else counts.reverse
  match counts.find? fun count => accepts pattern (leading (bytes.drop count)) with
  | some count => bytes.take count
  | none => bytes

end Pattern

end ChangelogSql.Shell
