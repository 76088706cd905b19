import ChangelogSql.Text.Search
import ChangelogSql.Text.Utf8

/-!
Paths as text and as components. A path keeps the bytes it was written with,
because people and programs see those bytes again. What it *denotes* is decided
by its components: repeated separators, a trailing separator and inner `.`
segments say nothing, while a leading `.` and every `..` are kept.
-/

namespace ChangelogSql

/-- The byte between two segments of a path. -/
def separator : UInt8 := 0x2F

/-- A path as it is written. -/
structure Path where
  bytes : Bytes
  deriving DecidableEq, Inhabited

namespace Path

/-- The path a text spells. -/
def ofString (text : String) : Path :=
  ⟨Bytes.ofString text⟩

/-- A path as people read it. -/
def shown (path : Path) : String :=
  path.bytes.shown

/-- What a path starts from: the top of the file system, an explicit `.`, or neither. -/
inductive Anchor where
  | top
  | here
  | none
  deriving DecidableEq

/-- One step of what a path denotes. -/
inductive Component where
  | top
  | here
  | up
  | normal (name : Bytes)
  deriving DecidableEq

/-- A segment that says nothing where it stands after the anchor. -/
def silent (segment : Bytes) : Bool :=
  segment = [] || segment = [0x2E]

/-- The component a segment after the anchor stands for. -/
def component? (segment : Bytes) : Option Component :=
  if silent segment then none
  else if segment = [0x2E, 0x2E] then some .up
  else some (.normal segment)

/-- A path cut at its separators, with the anchor told apart from the segments after it. -/
structure Parts where
  anchor : Anchor
  segments : List Bytes
  deriving DecidableEq

/-- Cuts a path at its separators. -/
def parts (path : Path) : Parts :=
  match Text.splitAt separator path.bytes with
  | [] :: segment :: segments => ⟨.top, segment :: segments⟩
  | [0x2E] :: segments => ⟨.here, segments⟩
  | [[]] => ⟨.none, []⟩
  | segments => ⟨.none, segments⟩

/-- Writes parts down again. -/
def ofParts : Parts → Path
  | ⟨.top, segments⟩ => ⟨separator :: Text.joinWith separator segments⟩
  | ⟨.here, segments⟩ => ⟨Text.joinWith separator ([0x2E] :: segments)⟩
  | ⟨.none, segments⟩ => ⟨Text.joinWith separator segments⟩

/-- The component of an anchor. -/
def Anchor.components : Anchor → List Component
  | .top => [.top]
  | .here => [.here]
  | .none => []

/-- The components of cut-up parts. -/
def Parts.components (parts : Parts) : List Component :=
  parts.anchor.components ++ parts.segments.filterMap component?

/-- What a path denotes, step by step. -/
def components (path : Path) : List Component :=
  path.parts.components

/-- Two spellings of one path. -/
def sameAs (path other : Path) : Bool :=
  path.components = other.components

/-- A path that starts at the top of the file system. -/
def isAbsolute (path : Path) : Bool :=
  path.bytes.head? = some separator

/-- `path` continued by `rest`. An absolute `rest` stands alone, and a separator is put between
the two only where neither side has one. -/
def join (path rest : Path) : Path :=
  if rest.isAbsolute then rest
  else if path.bytes = [] || path.bytes.getLast? = some separator then ⟨path.bytes ++ rest.bytes⟩
  else ⟨path.bytes ++ separator :: rest.bytes⟩

/-- Everything `path` denotes lies at or below what `base` denotes, step by step. -/
def startsWith (path base : Path) : Bool :=
  base.components.isPrefixOf path.components

end Path

end ChangelogSql
