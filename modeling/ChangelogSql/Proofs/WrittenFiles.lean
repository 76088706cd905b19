import ChangelogSql.Proofs.PlacePaths
import ChangelogSql.Proofs.StartingPoints
import ChangelogSql.Proofs.TidyTree

/-! Regular files are written at some places of a disk: they are made where nothing
stands, or written over. No link is made by that and none is taken away, so a path
leads to the place that it led to before. No other place notices: a directory stays
one, what was there is there, and what was not is not. -/
namespace ChangelogSql.WrittenFiles
open Files PathComponents PlacePaths StartingPoints TidyTree

/-- What stands at a place before and after a change somewhere else: the same, or a
directory that has the place of the change below it. -/
inductive Kin : Option Node → Option Node → Prop
  | same : Kin node? node?
  | directory : Kin (some (.directory mode entries)) (some (.directory mode entries'))

/-- A file can be written at a place: nothing stands there, or a file. -/
def IsFree (disk : Disk) (spot : Location) : Prop :=
  disk.node? spot = none ∨ ∃ number, disk.node? spot = some (.file number)

/-- A file stands at one of some places. -/
def StandsAt (disk : Disk) (spots : List Location) (number : Nat) : Prop :=
  ∃ spot ∈ spots, disk.node? spot = some (.file number)

/-- Regular files have been written at some places, and nothing else has changed. A file
that stands there afterwards has stood there before, or nowhere; every file that has
not stood there has its content still. -/
structure Written (disk disk' : Disk) (spots : List Location) : Prop where
  free : ∀ spot ∈ spots, IsFree disk spot
  stands : ∀ spot ∈ spots, ∃ number, disk'.node? spot = some (.file number) ∧
    ∀ names, disk.node? names = some (.file number) → StandsAt disk spots number
  elsewhere : ∀ names, names ∉ spots → Kin (disk.node? names) (disk'.node? names)
  contents : ∀ names number, disk.node? names = some (.file number) → ¬ StandsAt disk spots number →
    disk'.file? number = disk.file? number

section Trees
variable {node : Node} {name : Name} {names spot : Location} {change : Option Node → Option Node}
variable {number : Nat} {disk : Disk}

theorem below_append (node : Node) (front rest : Location) :
    node.below? (front ++ rest) = (node.below? front).bind (Node.below? rest) := by
  induction front generalizing node with
  | nil => rfl
  | cons name front ih =>
    cases node with
    | directory mode entries =>
      rw [List.cons_append, Node.below?, Node.below?, Option.bind_assoc]
      congr 1
      funext child
      exact ih child
    | _ => rfl

theorem node_append (disk : Disk) (front rest : Location) :
    disk.node? (front ++ rest) = (disk.node? front).bind (Node.below? rest) :=
  below_append _ front rest

/-- An entry that is changed, and not taken away, is found as it is now. -/
theorem find_alter (stays : ∀ node, change (some node) ≠ none) : ∀ entries : Entries,
    (entries.alter name change).find? name = change (entries.find? name)
  | .nil => by
    rw [Entries.alter]
    cases made : change none <;> simp [Entries.find?, made]
  | .cons first node rest => by
    rw [Entries.alter]
    by_cases here : first = name
    · rw [if_pos here, Entries.find?, if_pos here]
      cases made : change (some node) with
      | none => exact absurd made (stays node)
      | some new => rw [Entries.find?, if_pos here]
    · rw [if_neg here, Entries.find?, if_neg here, Entries.find?, if_neg here]
      exact find_alter stays rest

/-- Only the place where a file is put notices, as long as nothing stands below it. -/
theorem alterBelow_kin (bare : ∀ name rest, node.below? (spot ++ name :: rest) = none)
    (elsewhere : names ≠ spot) :
    Kin (node.below? names) ((node.alterBelow (fun _ => some (.file number)) spot).below? names) := by
  induction spot generalizing node names with
  | nil => exact .same
  | cons name spot ih =>
    cases node with
    | directory mode entries =>
      cases names with
      | nil => cases spot <;> exact .directory
      | cons other names =>
        by_cases same : other = name
        · subst same
          cases spot with
          | nil =>
            cases names with
            | nil => exact absurd rfl elsewhere
            | cons next names =>
              have none := bare next names
              rw [List.singleton_append, Node.below?] at none
              rw [Node.alterBelow, Node.below?, Node.below?, find_alter (by simp), none]
              exact .same
          | cons next spot =>
            rw [Node.alterBelow, Node.below?, Node.below?, find_alter (by simp)]
            cases found : entries.find? other with
            | none => exact .same
            | some child =>
              refine ih (fun name rest => ?_) fun same => elsewhere (same ▸ rfl)
              have none := bare name rest
              rwa [List.cons_append, Node.below?, found] at none
        · cases spot <;>
          · rw [Node.alterBelow, Node.below?, Node.below?, Entries.find?_alter_of_ne same]
            exact .same
    | _ => cases spot <;> exact .same

theorem put_node (disk : Disk) (spot : Location) (tidy : node.isTidy = true) (names : Location) :
    (disk.put spot node tidy).node? names =
      ((Node.directory programMode disk.top).alterBelow (fun _ => some node) spot).below? names := by
  match spot with
  | [] | [_] | _ :: _ :: _ => rfl

/-- Nowhere but where the file is put does anything change. -/
theorem put_kin (free : IsFree disk spot) (tidy : (Node.file number).isTidy = true)
    (elsewhere : names ≠ spot) :
    Kin (disk.node? names) ((disk.put spot (.file number) tidy).node? names) := by
  rw [put_node]
  refine alterBelow_kin (fun name rest => ?_) elsewhere
  have below := node_append disk spot (name :: rest)
  rcases free with none | ⟨number, file⟩
  · rwa [none] at below
  · rwa [file] at below

mutual

/-- Some entry below a node is one that is looked for. -/
def hasEntry (is : Name → Node → Bool) : Node → Bool
  | .directory _ entries => haveEntry is entries
  | _ => false

def haveEntry (is : Name → Node → Bool) : Entries → Bool
  | .nil => false
  | .cons name node rest => is name node || hasEntry is node || haveEntry is rest

end

theorem find_haveEntry {is : Name → Node → Bool} : ∀ entries : Entries,
    entries.find? name = some node → (is name node || hasEntry is node) = true → haveEntry is entries = true
  | .nil, found, _ => by cases found
  | .cons other node' rest, found, met => by
    rw [haveEntry, Bool.or_eq_true]
    rw [Entries.find?] at found
    split at found
    next same =>
      cases found
      exact .inl (same ▸ met)
    · exact .inr (find_haveEntry rest found met)

/-- What stands at a place below the top is found by looking at all there is. -/
theorem node_haveEntry (is : Name → Node → Bool) {inner : Node}
    (stands : disk.node? (names ++ [name]) = some inner) (met : is name inner = true) :
    haveEntry is disk.top = true := by
  have below : ∀ (names : Location) (node : Node), node.below? (names ++ [name]) = some inner →
      hasEntry is node = true := by
    intro names
    induction names with
    | nil =>
      rintro (_ | _ | _ | _ | ⟨mode, entries⟩) stands <;> try cases stands
      obtain ⟨child, found, same⟩ := Option.bind_eq_some_iff.mp stands
      cases same
      exact find_haveEntry entries found (by rw [met, Bool.true_or])
    | cons first names ih =>
      rintro (_ | _ | _ | _ | ⟨mode, entries⟩) stands <;> try cases stands
      obtain ⟨child, found, stands⟩ := Option.bind_eq_some_iff.mp stands
      exact find_haveEntry entries found (by rw [ih child stands, Bool.or_true])
  exact below names _ stands

end Trees

section Kinship
variable {node? node?' : Option Node}

theorem Kin.isSome_iff (kin : Kin node? node?') : node?'.isSome = node?.isSome := by
  cases kin <;> rfl

theorem Kin.none_iff (kin : Kin node? node?') : node?' = none ↔ node? = none := by
  cases kin <;> simp

theorem Kin.file_iff {number : Nat} (kin : Kin node? node?') :
    node?' = some (.file number) ↔ node? = some (.file number) := by
  cases kin <;> simp

theorem Kin.trans {node?'' : Option Node} (kin : Kin node? node?') (kin' : Kin node?' node?'') :
    Kin node? node?'' := by
  cases kin with
  | same => exact kin'
  | directory => cases kin' <;> exact .directory

end Kinship

section Writing
variable {disk disk' disk'' : Disk} {spots spots' : List Location} {spot names : Location}
variable {number : Nat}

theorem Written.refl (disk : Disk) : Written disk disk [] where
  free := by simp
  stands := by simp
  elsewhere _ _ := .same
  contents _ _ _ _ := rfl

/-- What has stood at a place and stands where something was written has been written. -/
theorem Written.standsAt (written : Written disk disk' spots) (before : disk.node? names = some (.file number))
    (after : StandsAt disk' spots' number) : StandsAt disk (spots ++ spots') number := by
  obtain ⟨spot, member, there⟩ := after
  by_cases mine : spot ∈ spots
  · obtain ⟨number', stands, known⟩ := written.stands spot mine
    obtain rfl : number = number' := by simpa using there.symm.trans stands
    obtain ⟨spot', member', there'⟩ := known names before
    exact ⟨spot', List.mem_append_left _ member', there'⟩
  · exact ⟨spot, List.mem_append_right _ member, (written.elsewhere spot mine).file_iff.mp there⟩

/-- Where a file can be written, one can be written again. -/
theorem Written.isFree_iff (written : Written disk disk' spots) :
    IsFree disk' spot ↔ IsFree disk spot := by
  by_cases here : spot ∈ spots
  · obtain ⟨number, stands, -⟩ := written.stands spot here
    exact iff_of_true (.inr ⟨number, stands⟩) (written.free spot here)
  · have kin := written.elsewhere spot here
    simp only [IsFree, kin.none_iff, kin.file_iff]

theorem Written.trans (written : Written disk disk' spots) (again : Written disk' disk'' spots') :
    Written disk disk'' (spots ++ spots') where
  free := List.forall_mem_append.mpr
    ⟨written.free, fun spot member => written.isFree_iff.mp (again.free spot member)⟩
  stands := by
    have later (spot : Location) (member : spot ∈ spots') : ∃ number,
        disk''.node? spot = some (.file number) ∧ ∀ names, disk.node? names = some (.file number) →
          StandsAt disk (spots ++ spots') number := by
      obtain ⟨number, stands, known⟩ := again.stands spot member
      refine ⟨number, stands, fun names before => ?_⟩
      by_cases here : names ∈ spots
      · exact ⟨names, List.mem_append_left _ here, before⟩
      · exact written.standsAt before (known names ((written.elsewhere names here).file_iff.mpr before))
    refine List.forall_mem_append.mpr ⟨fun spot member => ?_, later⟩
    by_cases twice : spot ∈ spots'
    · exact later spot twice
    · obtain ⟨number, stands, known⟩ := written.stands spot member
      refine ⟨number, (again.elsewhere spot twice).file_iff.mpr stands, fun names before => ?_⟩
      obtain ⟨spot', member', there⟩ := known names before
      exact ⟨spot', List.mem_append_left _ member', there⟩
  elsewhere names outside := by
    obtain ⟨first, second⟩ := not_or.mp (mt List.mem_append.mpr outside)
    exact (written.elsewhere names first).trans (again.elsewhere names second)
  contents names number before other := by
    have unwritten : ¬ StandsAt disk spots number := fun ⟨spot, member, there⟩ =>
      other ⟨spot, List.mem_append_left _ member, there⟩
    have here : names ∉ spots := fun member => unwritten ⟨names, member, before⟩
    rw [← written.contents names number before unwritten]
    exact again.contents names number ((written.elsewhere names here).file_iff.mpr before)
      (mt (written.standsAt before) other)

/-- An entry is the file with this number. -/
def isFileOf (number : Nat) : Name → Node → Bool
  | _, .file other => other = number
  | _, _ => false

theorem unused_of_haveEntry (unused : haveEntry (isFileOf number) disk.top = false) (names : Location) :
    disk.node? names ≠ some (.file number) := by
  intro there
  cases names using List.reverseRecOn with
  | nil => cases there
  | append_singleton front name =>
    have found := node_haveEntry (isFileOf number) there (decide_eq_true rfl)
    cases unused.symm.trans found

/-- Where a file can be written, making one anew writes it. -/
theorem create_written {content : Content} {mode : Nat} (free : IsFree disk spot)
    (unused : haveEntry (isFileOf disk.files.size) disk.top = false)
    (stands : (disk.create spot content mode).node? spot = some (.file disk.files.size)) :
    Written disk (disk.create spot content mode) [spot] where
  free := by simpa using free
  stands := by
    refine List.forall_mem_singleton.mpr ⟨_, stands, fun names there => ?_⟩
    exact absurd there (unused_of_haveEntry unused names)
  elsewhere names outside := by
    have free : IsFree (disk.addFile content mode).1 spot := free
    exact put_kin free rfl (by simpa using outside)
  contents names number there _ := by
    have different : number ≠ disk.files.size := by
      rintro rfl
      exact unused_of_haveEntry unused names there
    have record : (disk.create spot content mode).file? number =
        (disk.files.push ⟨content, mode, disk.clock⟩)[number]? := rfl
    rw [record, Array.getElem?_push, if_neg different, Disk.file?]

/-- The disk once a new file has been made where a path leads to. -/
def writtenAt (view : View) (path : Path) (content : Bytes) : Disk :=
  match placeOf? view path with
  | some spot => view.disk.create spot (.bytes content) plainMode
  | none => view.disk

/-- A new file can be made where a path leads to. -/
def canWrite (view : View) (path : Path) : Bool :=
  match placeOf? view path with
  | none => false
  | some spot =>
    let isFree := view.disk.node? spot matches none | some (.file _)
    let stands : Bool :=
      match (view.disk.create spot (.bytes []) plainMode).node? spot with
      | some (.file number) => number = view.disk.files.size
      | _ => false
    isFree && !haveEntry (isFileOf view.disk.files.size) view.disk.top && stands

theorem writtenAt_written {view : View} {path : Path} (content : Bytes) (can : canWrite view path = true) :
    ∃ spot, placeOf? view path = some spot ∧ Written view.disk (writtenAt view path content) [spot] := by
  unfold canWrite at can
  unfold writtenAt
  cases leads : placeOf? view path with
  | none =>
    rw [leads] at can
    cases can
  | some spot =>
    simp only [leads, Bool.and_eq_true, Bool.not_eq_true'] at can
    obtain ⟨⟨free, unused⟩, stands⟩ := can
    refine ⟨spot, rfl, create_written ?_ unused ?_⟩
    · cases there : view.disk.node? spot with
      | none => exact .inl there
      | some node => cases node <;> simp_all [IsFree]
    · have same : (view.disk.create spot (.bytes content) plainMode).node? spot =
          (view.disk.create spot (.bytes []) plainMode).node? spot := rfl
      rw [same]
      split at stands
      next number there => rw [there, of_decide_eq_true stands]
      · cases stands

/-- A file that has been written, or has stayed one, stands where a file stood. -/
theorem Written.keeps_file (written : Written disk disk' spots) (before : disk.node? names = some (.file number)) :
    ∃ number', disk'.node? names = some (.file number') := by
  by_cases here : names ∈ spots
  · obtain ⟨number', stands, -⟩ := written.stands names here
    exact ⟨number', stands⟩
  · exact ⟨number, (written.elsewhere names here).file_iff.mpr before⟩

/-- A directory stays one, and nothing else becomes one. -/
theorem Written.directory_iff (written : Written disk disk' spots) :
    (∃ mode entries, disk'.node? names = some (.directory mode entries)) ↔
      ∃ mode entries, disk.node? names = some (.directory mode entries) := by
  by_cases here : names ∈ spots
  · obtain ⟨number, stands, -⟩ := written.stands names here
    rcases written.free names here with none | ⟨number, file⟩ <;> simp [*]
  · have kin := written.elsewhere names here
    generalize disk.node? names = node?, disk'.node? names = node?' at kin
    cases kin <;> simp

theorem Written.isSome_of_isSome (written : Written disk disk' spots) (before : (disk.node? names).isSome) :
    (disk'.node? names).isSome := by
  by_cases here : names ∈ spots
  · obtain ⟨number, stands, -⟩ := written.stands names here
    simp [stands]
  · rwa [(written.elsewhere names here).isSome_iff]

end Writing

section Walks
variable {disk disk' : Disk} {spots : List Location} {location : Location} {segments rest : List Bytes}
variable {segment : Bytes} {chase chase' : Location → List Bytes → Except Fault Place}

/-- Where a walk has ended. -/
def ended (walked : Except Fault Place) : Option Location :=
  walked.toOption.map Place.location

/-- Above what stands something stands. -/
theorem isSome_dropLast (there : (disk.node? location).isSome) :
    (disk.node? location.dropLast).isSome := by
  cases location using List.reverseRecOn with
  | nil => exact there
  | append_singleton front name =>
    rw [List.dropLast_concat]
    cases above : disk.node? front with
    | some node => rfl
    | none => simp [node_append, above] at there

/-- From what is not a directory no walk goes on. -/
theorem walkWith_stuck (stuck : ∀ mode entries, disk.node? location ≠ some (.directory mode entries)) :
    ended (walkWith disk true chase location (segment :: rest)) = none := by
  rw [walkWith]
  split
  · rfl
  next mode entries there => exact absurd there (stuck mode entries)
  · rfl

/-- Wherever a walk ends, it ends there once files have been written. -/
theorem walkWith_ended (written : Written disk disk' spots)
    (behind : ∀ location segments, segments ≠ [] →
      ended (chase' location segments) = ended (chase location segments))
    (there : segments = [] → (disk.node? location).isSome) :
    ended (walkWith disk' true chase' location segments) =
      ended (walkWith disk true chase location segments) := by
  induction segments generalizing location with
  | nil =>
    obtain ⟨node, before⟩ := Option.isSome_iff_exists.mp (there rfl)
    obtain ⟨node', after⟩ := Option.isSome_iff_exists.mp (written.isSome_of_isSome (there rfl))
    rw [walkWith, walkWith, before, after]
    rfl
  | cons segment rest ih =>
    by_cases directory : ∃ mode entries, disk.node? location = some (.directory mode entries)
    · obtain ⟨mode', entries', after⟩ := written.directory_iff.mpr directory
      obtain ⟨mode, entries, before⟩ := directory
      simp only [walkWith, before, after]
      by_cases quiet : Path.silent segment = true
      · rw [if_pos quiet, if_pos quiet]
        exact ih fun _ => by simp [before]
      by_cases up : segment = [0x2E, 0x2E]
      · rw [if_neg quiet, if_neg quiet, if_pos up, if_pos up]
        exact ih fun _ => isSome_dropLast (by simp [before])
      by_cases long : nameLimit < segment.length
      · simp only [quiet, up, long, ↓reduceIte, Bool.false_eq_true]
      simp only [quiet, up, long, ↓reduceIte, Bool.false_eq_true]
      cases Name.ofBytes? segment with
      | none => rfl
      | some name =>
        dsimp only
        by_cases here : location ++ [name] ∈ spots
        · obtain ⟨number', stands, -⟩ := written.stands _ here
          rcases written.free _ here with none | ⟨number, file⟩
          · rw [none, stands]
            cases rest with
            | nil => simp [walkWith, stands, ended, Except.toOption]
            | cons next rest => exact walkWith_stuck (by simp [stands])
          · rw [file, stands]
            exact ih fun _ => by simp [file]
        · have kin := written.elsewhere _ here
          cases inner : disk.node? (location ++ [name]) with
          | none => rw [kin.none_iff.mpr inner]
          | some node =>
            have below := ih fun _ => Option.isSome_of_eq_some inner
            rw [inner] at kin
            generalize disk'.node? (location ++ [name]) = node?' at kin
            cases kin with
            | directory => exact below
            | same =>
              cases node with
              | link target =>
                simpa using behind _ _ (by simp [start, Text.splitAt_ne_nil])
              | _ => exact below
    · have directory' := mt written.directory_iff.mp directory
      simp only [not_exists] at directory directory'
      rw [walkWith_stuck directory, walkWith_stuck directory']

theorem walk_ended (written : Written disk disk' spots) (links : Nat)
    (there : segments = [] → (disk.node? location).isSome) :
    ended (walk disk' true links location segments) = ended (walk disk true links location segments) := by
  induction links generalizing location segments with
  | zero => exact walkWith_ended written (fun _ _ _ => rfl) there
  | succ links ih =>
    exact walkWith_ended written (fun _ _ filled => ih fun empty => absurd empty filled) there

/-- A path leads to the same place once files have been written, through whatever links. -/
theorem Written.placeOf_eq (written : Written disk disk' spots) (cwd : Location) (path : Path) :
    placeOf? ⟨disk', cwd⟩ path = placeOf? ⟨disk, cwd⟩ path := by
  have filled : (start cwd path).2 ≠ [] := Text.splitAt_ne_nil separator path.bytes
  simp only [placeOf?, Disk.lookup, Disk.search]
  split
  · rfl
  split
  · rfl
  split
  · rfl
  exact walk_ended written linkLimit fun empty => absurd empty filled

end Walks

section Sight
variable {disk disk' : Disk} {cwd spot : Location} {spots : List Location} {path : Path}
variable {view : View} {node : Node} {number : Nat}

/-- A path that leads to a file leads to one still. -/
theorem Written.isFile (written : Written disk disk' spots) (file : View.isFile ⟨disk, cwd⟩ path = true) :
    View.isFile ⟨disk', cwd⟩ path = true := by
  obtain ⟨spot, number, leads, stands⟩ := isFile_iff.mp file
  obtain ⟨number', stands'⟩ := written.keeps_file stands
  exact isFile_iff.mpr ⟨spot, number', (written.placeOf_eq cwd path).trans leads, stands'⟩

/-- A path that leads to none of the places where files are written leads to a file
exactly if it did before. -/
theorem Written.isFile_eq (written : Written disk disk' spots)
    (aside : ∀ spot, placeOf? ⟨disk, cwd⟩ path = some spot → spot ∉ spots) :
    View.isFile ⟨disk', cwd⟩ path = View.isFile ⟨disk, cwd⟩ path := by
  rw [Bool.eq_iff_iff, isFile_iff, isFile_iff]
  simp only [written.placeOf_eq]
  refine exists_congr fun spot => exists_congr fun number => and_congr_right fun leads => ?_
  exact (written.elsewhere spot (aside spot leads)).file_iff

/-- A file that is not written is read as it was before. -/
theorem Written.read_eq (written : Written disk disk' spots)
    (leads : placeOf? ⟨disk, cwd⟩ path = some spot) (stands : disk.node? spot = some (.file number))
    (unwritten : ¬ StandsAt disk spots number) :
    View.read ⟨disk', cwd⟩ path = View.read ⟨disk, cwd⟩ path := by
  have elsewhere : spot ∉ spots := fun member => unwritten ⟨spot, member, stands⟩
  have before : View.stat ⟨disk, cwd⟩ path = .ok (.file number) := stat_eq_ok_iff.mpr ⟨spot, leads, stands⟩
  have after : View.stat ⟨disk', cwd⟩ path = .ok (.file number) :=
    stat_eq_ok_iff.mpr ⟨spot, (written.placeOf_eq cwd path).trans leads,
      (written.elsewhere spot elsewhere).file_iff.mpr stands⟩
  simp only [View.read, before, after, Bind.bind, Except.bind, Disk.contentOf,
    written.contents spot number stands unwritten]

end Sight

section Unlinked
variable {disk : Disk} {location place names spot cwd : Location}

/-- No link stands anywhere on a disk. -/
def Unlinked (disk : Disk) : Prop :=
  ∀ names target, disk.node? names ≠ some (.link target)

/-- An entry is a link. -/
def isLink : Name → Node → Bool
  | _, .link _ => true
  | _, _ => false

/-- A disk is searched for links by looking at all it has. -/
theorem unlinked_of_haveEntry (none : haveEntry isLink disk.top = false) : Unlinked disk := by
  intro names target link
  cases names using List.reverseRecOn with
  | nil => cases link
  | append_singleton front name => cases none.symm.trans (node_haveEntry isLink link rfl)

theorem Unlinked.isUnlinked (unlinked : Unlinked disk) : isUnlinked disk location names = true := by
  induction names generalizing location with
  | nil => rfl
  | cons name names ih =>
    rw [StartingPoints.isUnlinked]
    split
    next target link => exact absurd link (unlinked _ target)
    · exact ih

/-- The segments of the path of a place are its names. -/
theorem path_segments (place : Location) :
    (Text.splitAt separator place.path.bytes).filterMap Name.ofBytes? = place ∧
      [0x2E, 0x2E] ∉ Text.splitAt separator place.path.bytes := by
  cases place with
  | nil => decide
  | cons name rest =>
    have free : ∀ piece ∈ (name :: rest).map Name.bytes, separator ∉ piece := by
      rintro _ member
      obtain ⟨name, -, rfl⟩ := List.mem_map.mp member
      exact (name_speaks name.proper).2.1
    have segments : Text.splitAt separator (Location.path (name :: rest)).bytes =
        [] :: (name :: rest).map Name.bytes := by
      rw [Location.path, Text.splitAt, if_pos rfl, splitAt_joinWith separator _ (by simp) free]
    have spelled : Name.ofBytes? ∘ Name.bytes = some := by
      funext name
      exact dif_pos name.proper
    rw [segments, List.filterMap_cons_none (by rfl), List.filterMap_map, spelled, List.filterMap_some]
    refine ⟨rfl, fun member => ?_⟩
    obtain up | member := List.mem_cons.mp member
    · cases up
    · obtain ⟨name, -, same⟩ := List.mem_map.mp member
      have proper := name.proper
      simp [same, isName] at proper

/-- Where there are no links, the path of a place leads nowhere else. -/
theorem placeOf_path (unlinked : Unlinked disk) (leads : placeOf? ⟨disk, cwd⟩ place.path = some spot) :
    spot = place := by
  obtain ⟨names, level⟩ := path_segments place
  have top : start cwd place.path = ([], Text.splitAt separator place.path.bytes) := by
    rw [start, path_isAbsolute, if_pos rfl]
  obtain ⟨found, ends, rfl⟩ := placeOf_eq_some_iff.mp leads
  simp only [Disk.lookup, Disk.search, top] at ends
  split at ends
  · cases ends
  split at ends
  · cases ends
  split at ends
  · cases ends
  have ends := walk_names level unlinked.isUnlinked ends
  rwa [List.nil_append, names] at ends

end Unlinked

end ChangelogSql.WrittenFiles
