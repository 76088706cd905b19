import ChangelogSql.Files.Fault
import ChangelogSql.Path.Basic

/-!
What a file system holds: a finite tree of directories, files, devices and
symbolic links. A place in the tree is the list of names that lead to it from
the top, each a proper name, so that no place has two spellings. A file is a
number in the tree and a record beside it, so that one file can have several
places, or none while something still reads it. Entries are held as a list, in
which a name could be repeated; a disk is one on which no directory repeats one.
-/

namespace ChangelogSql.Files

/-- Bytes that can name an entry of a directory: some, none of them a separator or NUL, and
neither `.` nor `..`. -/
def isName (bytes : Bytes) : Bool :=
  bytes ≠ [] && bytes ≠ [0x2E] && bytes ≠ [0x2E, 0x2E] && !bytes.contains separator
    && !bytes.contains 0

/-- The name of an entry of a directory. -/
@[ext]
structure Name where
  bytes : Bytes
  proper : isName bytes = true
  deriving DecidableEq

/-- The name that bytes spell, where they spell one. -/
def Name.ofBytes? (bytes : Bytes) : Option Name :=
  if proper : isName bytes = true then some ⟨bytes, proper⟩ else none

/-- The order of names: that of their bytes. -/
def Name.le (name other : Name) : Bool :=
  name.bytes ≤ other.bytes

/-- The names that lead to a place from the top. -/
abbrev Location := List Name

/-- The absolute path of a place. -/
def Location.path (location : Location) : Path :=
  ⟨separator :: Text.joinWith separator (location.map Name.bytes)⟩

/-- What a file holds: bytes, a program of the machine itself, or what cannot be read. -/
inductive Content where
  | bytes (bytes : Bytes)
  | program (name : String)
  | unreadable (fault : Fault)
  deriving DecidableEq

/-- What there is to know about a file beside its places. -/
structure File where
  content : Content
  /-- The permission bits. -/
  mode : Nat
  /-- When the content was changed last. -/
  modified : Nat
  deriving DecidableEq

/-- Anyone may execute what has these permission bits. -/
def isRunnable (mode : Nat) : Bool :=
  mode &&& 0o111 ≠ 0

/-- The permission bits of a file that is made without asking for others, and of a program. -/
def plainMode : Nat := 0o644

def programMode : Nat := 0o755

/-- Something that can be opened and keeps nothing. -/
inductive Device where
  /-- Ends at once when it is read, and takes everything. -/
  | nothing
  /-- Gives zeros without end, and takes everything. -/
  | zeros
  /-- Gives zeros without end, and has no room. -/
  | full
  /-- What a process can speak to someone through; nobody is there. -/
  | terminal
  /-- What one of the descriptors of a process leads to. -/
  | descriptor (number : Nat)
  deriving DecidableEq

mutual

/-- What stands at a place. -/
inductive Node where
  | file (number : Nat)
  | device (device : Device)
  /-- A named pipe. -/
  | queue (number : Nat)
  | link (target : Path)
  | directory (mode : Nat) (entries : Entries)

/-- The entries of a directory. -/
inductive Entries where
  | nil
  | cons (name : Name) (node : Node) (rest : Entries)

end

instance : Inhabited Node := ⟨.device .nothing⟩

namespace Entries

/-- The entry called `name`. -/
def find? (name : Name) : Entries → Option Node
  | .nil => none
  | .cons other node rest => if other = name then some node else rest.find? name

/-- The entries with the one called `name` as `change` has it; `none` stands for no entry. -/
def alter (name : Name) (change : Option Node → Option Node) : Entries → Entries
  | .nil =>
    match change none with
    | none => .nil
    | some node => .cons name node .nil
  | .cons other node rest =>
    if other = name then
      match change (some node) with
      | none => rest
      | some node => .cons other node rest
    else .cons other node (rest.alter name change)

/-- The entries as pairs, in the order they are held. -/
def toList : Entries → List (Name × Node)
  | .nil => []
  | .cons name node rest => (name, node) :: rest.toList

/-- The entries in a list, in its order. -/
def ofList : List (Name × Node) → Entries
  | [] => .nil
  | (name, node) :: rest => .cons name node (ofList rest)

end Entries

namespace Node

/-- What stands below this node at the end of `names`. Only directories have anything below. -/
def below? : Location → Node → Option Node
  | [], node => some node
  | name :: names, .directory _ entries => (entries.find? name).bind (below? names)
  | _ :: _, _ => none

/-- This node with what stands at the end of `names` as `change` has it. Where a directory on the
way is missing, nothing changes. -/
def alterBelow (change : Option Node → Option Node) : Location → Node → Node
  | [name], .directory mode entries => .directory mode (entries.alter name change)
  | name :: next :: names, .directory mode entries =>
    .directory mode (entries.alter name fun child? =>
      child?.map (alterBelow change (next :: names)))
  | _, node => node

end Node

mutual

/-- No directory at or below a node has two entries of one name. -/
def Node.isTidy : Node → Bool
  | .directory _ entries => entries.isTidy
  | _ => true

/-- No name is repeated in some entries, nor in a directory at or below them. -/
def Entries.isTidy : Entries → Bool
  | .nil => true
  | .cons name node rest => (rest.find? name).isNone && node.isTidy && rest.isTidy

end

section Tidy
variable {name other : Name} {node inner : Node} {names : Location}
variable {change : Option Node → Option Node}

theorem Entries.isTidy_cons {rest : Entries} : (Entries.cons name node rest).isTidy = true ↔
    rest.find? name = none ∧ node.isTidy = true ∧ rest.isTidy = true := by
  rw [Entries.isTidy, Bool.and_eq_true, Bool.and_eq_true, Option.isNone_iff_eq_none, and_assoc]

/-- An entry that is found among tidy entries is tidy. -/
theorem Entries.find?_isTidy : ∀ {entries : Entries}, entries.isTidy = true →
    entries.find? name = some node → node.isTidy = true
  | .nil, _, found => by cases found
  | .cons other child rest, tidy, found => by
    obtain ⟨-, first, others⟩ := isTidy_cons.mp tidy
    rw [find?] at found
    split at found
    · cases found
      exact first
    · exact find?_isTidy others found

/-- Changing one entry leaves the others as they were. -/
theorem Entries.find?_alter_of_ne (different : other ≠ name) : ∀ entries : Entries,
    (entries.alter name change).find? other = entries.find? other
  | .nil => by
    rw [alter]
    cases change none <;> simp [find?, Ne.symm different]
  | .cons first child rest => by
    rw [alter]
    by_cases here : first = name
    · subst here
      rw [if_pos rfl]
      cases change (some child) <;> simp [find?, Ne.symm different]
    · rw [if_neg here, find?, find?_alter_of_ne different rest, find?]

theorem Entries.alter_isTidy : ∀ {entries : Entries}, entries.isTidy = true →
    (∀ node, change (entries.find? name) = some node → node.isTidy = true) →
    (entries.alter name change).isTidy = true
  | .nil, _, keeps => by
    rw [alter]
    split
    · rfl
    next node made => exact isTidy_cons.mpr ⟨rfl, keeps node made, rfl⟩
  | .cons other child rest, tidy, keeps => by
    obtain ⟨single, first, others⟩ := isTidy_cons.mp tidy
    rw [alter]
    by_cases here : other = name
    · subst here
      rw [if_pos rfl]
      split
      · exact others
      next node made =>
        exact isTidy_cons.mpr ⟨single, keeps node (by rw [find?, if_pos rfl, made]), others⟩
    · rw [find?, if_neg here] at keeps
      rw [if_neg here]
      exact isTidy_cons.mpr ⟨(find?_alter_of_ne here rest).trans single, first, alter_isTidy others keeps⟩

/-- What stands below a tidy node is tidy. -/
theorem Node.below?_isTidy (tidy : node.isTidy = true) (stands : node.below? names = some inner) :
    inner.isTidy = true := by
  induction names generalizing node with
  | nil =>
    rw [below?] at stands
    cases stands
    exact tidy
  | cons name names ih =>
    cases node with
    | directory mode entries =>
      obtain ⟨child, found, stands⟩ := Option.bind_eq_some_iff.mp stands
      exact ih (Entries.find?_isTidy tidy found) stands
    | _ => cases stands

/-- Changing one place below a tidy node leaves it tidy, if what is put there is. -/
theorem Node.alterBelow_isTidy
    (keeps : ∀ child? node, change child? = some node → node.isTidy = true)
    (tidy : node.isTidy = true) : (node.alterBelow change names).isTidy = true := by
  induction names generalizing node with
  | nil => cases node <;> exact tidy
  | cons name names ih =>
    cases node with
    | directory mode entries =>
      cases names with
      | nil => exact Entries.alter_isTidy tidy fun node => keeps _ node
      | cons next names =>
        refine Entries.alter_isTidy tidy fun node made => ?_
        obtain ⟨child, found, rfl⟩ := Option.map_eq_some_iff.mp made
        exact ih (Entries.find?_isTidy tidy found)
    | _ => cases names <;> exact tidy

end Tidy

/-- The entries of a directory; nothing else has any. -/
def Node.entries : Node → Entries
  | .directory _ entries => entries
  | _ => .nil

theorem Node.entries_isTidy {node : Node} (tidy : node.isTidy = true) : node.entries.isTidy = true := by
  cases node <;> first | exact tidy | rfl

/-- A file system: its top directory, the files by their numbers, and the time. -/
structure Disk where
  top : Entries
  files : Array File
  clock : Nat
  tidy : top.isTidy = true

namespace Disk

/-- A disk with nothing on it, at some time. -/
def empty (clock : Nat) : Disk :=
  ⟨.nil, #[], clock, rfl⟩

/-- What stands at a place. -/
def node? (disk : Disk) (location : Location) : Option Node :=
  (Node.directory programMode disk.top).below? location

theorem node?_isTidy {disk : Disk} {location : Location} {node : Node}
    (stands : disk.node? location = some node) : node.isTidy = true :=
  Node.below?_isTidy (show (Node.directory programMode disk.top).isTidy = true from disk.tidy) stands

/-- The disk with `node`, in place of what was there, at a place whose directory exists, or with
nothing there. -/
def set (disk : Disk) (location : Location) (node? : Option Node)
    (tidy : ∀ node, node? = some node → node.isTidy = true) : Disk where
  top := ((Node.directory programMode disk.top).alterBelow (fun _ => node?) location).entries
  files := disk.files
  clock := disk.clock
  tidy := Node.entries_isTidy (Node.alterBelow_isTidy (fun _ node => tidy node) disk.tidy)

/-- The disk with `node` at a place whose directory exists. -/
def put (disk : Disk) (location : Location) (node : Node) (tidy : node.isTidy = true) : Disk :=
  disk.set location (some node) fun _ same => Option.some.inj same ▸ tidy

/-- The disk with a file at a place whose directory exists. -/
def putFile (disk : Disk) (location : Location) (number : Nat) : Disk :=
  disk.put location (.file number) rfl

/-- The disk with nothing at a place. -/
def erase (disk : Disk) (location : Location) : Disk :=
  disk.set location none nofun

/-- The file with a number. -/
def file? (disk : Disk) (number : Nat) : Option File :=
  disk.files[number]?

/-- The disk with another record for a file. -/
def setFile (disk : Disk) (number : Nat) (file : File) : Disk :=
  { disk with files := disk.files.setIfInBounds number file }

/-- The disk with a file changed. -/
def alterFile (disk : Disk) (number : Nat) (change : File → File) : Disk :=
  match disk.file? number with
  | some file => disk.setFile number (change file)
  | none => disk

/-- The disk with other content in a file, which is changed now. -/
def setContent (disk : Disk) (number : Nat) (content : Content) : Disk :=
  disk.alterFile number fun file => { file with content, modified := disk.clock }

/-- The disk with one more file, which stands nowhere yet, and its number. -/
def addFile (disk : Disk) (content : Content) (mode : Nat) : Disk × Nat :=
  ({ disk with files := disk.files.push ⟨content, mode, disk.clock⟩ }, disk.files.size)

/-- The disk with a new file at a place whose directory exists. -/
def create (disk : Disk) (location : Location) (content : Content) (mode : Nat) : Disk :=
  let (disk, number) := disk.addFile content mode
  disk.putFile location number

end Disk

end ChangelogSql.Files
