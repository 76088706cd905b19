import ChangelogSql.Utility.Records.Value

/-!
Tables of values by keys. A table is a row of lists, and a key goes to the list
that its digest chooses, in front of what is there; what is looked up goes to
the front too. Whole numbers have lists of their own until the keys are wanted
as texts. The keys of a table are gone through list by list.
-/

namespace ChangelogSql.Utility.Records

open Text (ascii)

/-- A place in a table. -/
structure Node where
  /-- The key as a text, once it is wanted. -/
  text? : Option Bytes
  number? : Option Int
  value : Value
  deriving Inhabited

/-- The lists that belong together: by texts, and by whole numbers. -/
structure Bucket where
  texts : List Nat
  numbers : List Nat
  deriving Inhabited

/-- A table. Nodes that no list holds are left over. -/
structure Table where
  nodes : Array Node
  buckets : Array Bucket
  size : Nat
  /-- The keys are in the lists by texts. -/
  hasTexts : Bool
  deriving Inhabited

/-- A key. -/
inductive Key where
  | text (bytes : Bytes)
  | number (value : Int)
  deriving DecidableEq

/-- The digest of a text. -/
def digest (bytes : Bytes) : Nat :=
  bytes.foldl (fun sum b => (Nat.xor sum b.toNat * 16777619) % Numeral.twoTo 32) 2166136261

namespace Table

/-- How many lists a table has at first. -/
def startSize : Nat := 64

/-- A table with nothing in it. -/
def empty : Table := ⟨#[], #[], 0, false⟩

/-- The list of a text, and that of a whole number. -/
def textPlace (table : Table) (bytes : Bytes) : Nat :=
  digest bytes % table.buckets.size

def numberPlace (table : Table) (value : Int) : Nat :=
  (value % (table.buckets.size : Int)).toNat

def node (table : Table) (index : Nat) : Node :=
  table.nodes[index]?.getD ⟨none, none, .missing⟩

def bucket (table : Table) (place : Nat) : Bucket :=
  table.buckets[place]?.getD ⟨[], []⟩

def setTexts (table : Table) (place : Nat) (texts : List Nat) : Table :=
  { table with buckets := table.buckets.modify place ({ · with texts }) }

def setNumbers (table : Table) (place : Nat) (numbers : List Nat) : Table :=
  { table with buckets := table.buckets.modify place ({ · with numbers }) }

/-- The table with lists, where there are none yet. -/
def started (table : Table) : Table :=
  if table.buckets.isEmpty then
    { table with buckets := Array.replicate startSize ⟨[], []⟩ }
  else table

/-- The text of the key of a node. -/
def textOfNode (node : Node) : Bytes :=
  match node.text? with
  | some text => text
  | none => Text.Ascii.ofInt (node.number?.getD 0)

/-- The table with all its keys in the lists by texts. -/
def withTexts (table : Table) : Table :=
  let table := table.started
  if table.hasTexts then table
  else
    let numbered := table.buckets.toList.flatMap (·.numbers)
    let added := numbered.foldl (fun (table : Table) index =>
      let node := table.node index
      if node.text?.isSome then table
      else
        let text := textOfNode node
        let place := table.textPlace text
        let nodes := table.nodes.modify index ({ · with text? := some text })
        let table := { table with nodes }
        table.setTexts place (index :: (table.bucket place).texts)) table
    { added with hasTexts := true }

/-- Parts a list in two, each in the order that it has. -/
def parted (stays : Nat → Bool) (list : List Nat) : List Nat × List Nat :=
  (list.filter stays, list.filter fun index => !stays index)

/-- The table with twice as many lists. -/
def doubled (table : Table) : Table :=
  let count := table.buckets.size
  let wide := { table with buckets := table.buckets ++ Array.replicate count ⟨[], []⟩ }
  (List.range count).foldl (fun (wide : Table) place =>
    let bucket := wide.bucket place
    let staysText (index : Nat) : Bool :=
      wide.textPlace (textOfNode (wide.node index)) = place
    let staysNumber (index : Nat) : Bool :=
      wide.numberPlace ((wide.node index).number?.getD 0) = place
    let (texts, movedTexts) := parted staysText bucket.texts
    let (numbers, movedNumbers) := parted staysNumber bucket.numbers
    let wide := (wide.setTexts place texts).setNumbers place numbers
    (wide.setTexts (place + count) movedTexts).setNumbers (place + count) movedNumbers) wide

/-- How many keys a list holds on average at most. -/
def listLimit : Nat := 12

/-- The table with one more node, which is in no list yet, and the number of the node. -/
def withNode (table : Table) (node : Node) : Table × Nat :=
  let index := table.nodes.size
  let table := { table with nodes := table.nodes.push node, size := table.size + 1 }
  if table.buckets.size * listLimit < table.size then (table.doubled, index) else (table, index)

/-- The node of a text, which goes to the front of its list. It is made if `creates` is set. -/
def findText (table : Table) (bytes : Bytes) (creates : Bool) : Table × Option Nat :=
  let table := table.withTexts
  let place := table.textPlace bytes
  let texts := (table.bucket place).texts
  match texts.find? fun index => (table.node index).text? = some bytes with
  | some index => (table.setTexts place (index :: texts.erase index), some index)
  | none =>
    if creates then
      let (table, index) := table.withNode ⟨some bytes, none, .missing⟩
      let place := table.textPlace bytes
      (table.setTexts place (index :: (table.bucket place).texts), some index)
    else (table, none)

/-- The node of a whole number, which goes to the front of its list. -/
def findNumber (table : Table) (value : Int) (creates : Bool) : Table × Option Nat :=
  let table := table.started
  let place := table.numberPlace value
  let numbers := (table.bucket place).numbers
  match numbers.find? fun index => (table.node index).number? = some value with
  | some index => (table.setNumbers place (index :: numbers.erase index), some index)
  | none =>
    let (table, found?) : Table × Option Nat :=
      if table.hasTexts then table.findText (Text.Ascii.ofInt value) creates
      else if creates then
        let (table, index) := table.withNode ⟨none, none, .missing⟩
        (table, some index)
      else (table, none)
    match found? with
    | none => (table, none)
    | some index =>
      let nodes := table.nodes.modify index ({ · with number? := some value })
      let table := { table with nodes }
      let place := table.numberPlace value
      (table.setNumbers place (index :: (table.bucket place).numbers), some index)

def find (table : Table) (key : Key) (creates : Bool) : Table × Option Nat :=
  if table.size = 0 && !creates then (table, none)
  else
    match key with
    | .text bytes => table.findText bytes creates
    | .number value => table.findNumber value creates

/-- A key is in the table. -/
def hasKey (table : Table) (key : Key) : Table × Bool :=
  let (table, found?) := table.find key false
  (table, found?.isSome)

/-- The value of a key, which is in the table from then on. -/
def get (table : Table) (key : Key) : Table × Value :=
  let (table, found?) := table.find key true
  (table, (table.node (found?.getD 0)).value)

/-- The table with a value for a key. -/
def set (table : Table) (key : Key) (value : Value) : Table :=
  let (table, found?) := table.find key true
  { table with nodes := table.nodes.modify (found?.getD 0) ({ · with value }) }

/-- The table without a key. -/
def erase (table : Table) (key : Key) : Table :=
  match table.find key false with
  | (table, none) => table
  | (table, some index) =>
    if table.size ≤ 1 then empty
    else
      let node := table.node index
      let table :=
        match node.text? with
        | some text =>
          let place := table.textPlace text
          table.setTexts place ((table.bucket place).texts.erase index)
        | none => table
      let table :=
        match node.number? with
        | some value =>
          let place := table.numberPlace value
          table.setNumbers place ((table.bucket place).numbers.erase index)
        | none => table
      { table with size := table.size - 1 }

/-- The keys of a table. -/
def keys (table : Table) : Table × List Bytes :=
  if table.size = 0 then (table, [])
  else
    let table := table.withTexts
    let indices := table.buckets.toList.flatMap (·.texts)
    (table, indices.map fun index => textOfNode (table.node index))

/-- So many lists that a table of a size has room in them. -/
def roomFor (size : Nat) : Nat → Nat → Nat
  | 0, count => count
  | fuel + 1, count => if count * listLimit < size then roomFor size fuel (2 * count) else count

/-- A table with some values under the numbers from one on. -/
def ofValues (values : List Value) : Table :=
  let count := roomFor values.length values.length startSize
  let wide : Table := ⟨#[], Array.replicate count ⟨[], []⟩, 0, false⟩
  let (table, _) := values.foldl (fun (entry : Table × Int) value =>
    let (table, number) := entry
    let index := table.nodes.size
    let place := table.numberPlace number
    let table :=
      { table with nodes := table.nodes.push ⟨none, some number, value⟩, size := table.size + 1 }
    (table.setNumbers place (index :: (table.bucket place).numbers), number + 1)) (wide, 1)
  if values.isEmpty then empty else table

end Table

end ChangelogSql.Utility.Records
