import ChangelogSql.Discovery.Walk
import ChangelogSql.Proofs.PathDescent
import ChangelogSql.Proofs.TidyTree
import Mathlib.Data.List.Sort
import Mathlib.Order.Defs.LinearOrder

/-! Where a walk comes by. It visits every place below its root that can be
reached by names that are short enough together, each once, and a place comes
before another if its names do, compared one by one from the root on. -/
namespace ChangelogSql.TreeWalk
open Files Discovery PathDescent TidyTree

/-- The entries of a walk; a path that could not be looked at is none. -/
def visited (visits : List Visit) : List Path :=
  visits.filterMap fun
    | .entry path => some path
    | .unreadable .. => none

@[simp] theorem visited_entry (path : Path) (visits : List Visit) :
    visited (.entry path :: visits) = path :: visited visits := rfl

theorem visited_append (visits more : List Visit) :
    visited (visits ++ more) = visited visits ++ visited more :=
  List.filterMap_append

/-- The order of places: that of their names, one by one. -/
def Before (names other : Location) : Prop :=
  names.map Name.bytes < other.map Name.bytes

/-- The path of the directory that a place is in can be asked for. -/
def Reached (path : Path) (names : Location) : Prop :=
  names = [] ∨ (descend path names.dropLast).bytes.length < pathLimit

/-- The walk over a node at `path` comes by exactly these places in and below it,
in their order. -/
structure Walks (path : Path) (node : Node) (places : List Location) : Prop where
  paths : visited (.entry path :: visitsBelow path node) = places.map (descend path)
  ordered : places.Pairwise Before
  exact : ∀ names, names ∈ places ↔ (node.below? names).isSome ∧ Reached path names

variable {path : Path} {node : Node} {entries : Entries} {names : Location}

/-- Going on from a directory's entry, one must have been able to ask for the
directory itself. -/
theorem reached_cons (path : Path) (name : Name) (names : Location) :
    Reached path (name :: names) ↔
      path.bytes.length < pathLimit ∧ Reached (path.join ⟨name.bytes⟩) names := by
  cases names using List.reverseRecOn with
  | nil => simp [Reached]
  | append_singleton names last =>
    have shorter := descend_longer path (name :: names)
    rw [descend_cons] at shorter
    have front : (name :: (names ++ [last])).dropLast = name :: names := by
      rw [← List.cons_append, List.dropLast_concat]
    simp only [Reached, front, List.dropLast_concat, descend_cons, reduceCtorEq, false_or,
      List.append_eq_nil_iff, List.cons_ne_self, and_false]
    omega

/-- The entries of a directory in the order in which a walk takes them. -/
def inOrder (entries : Entries) : List (Name × Node) :=
  entries.toList.mergeSort fun entry other => entry.1.le other.1

theorem mem_inOrder {entry : Name × Node} : entry ∈ inOrder entries ↔ entry ∈ entries.toList :=
  List.mem_mergeSort

/-- Entries with different names are taken in the strict order of their names. -/
theorem inOrder_strict (tidy : entries.isTidy = true) :
    (inOrder entries).Pairwise fun entry other => entry.1.bytes < other.1.bytes := by
  have sorted : (inOrder entries).Pairwise fun entry other => entry.1.le other.1 = true := by
    refine List.pairwise_mergeSort (fun a b c first second => ?_) (fun a b => ?_) _
    · simp only [Name.le, decide_eq_true_eq] at first second ⊢
      exact List.le_trans first second
    · simp only [Name.le, Bool.or_eq_true, decide_eq_true_eq]
      exact List.le_total _ _
  have apart : (inOrder entries).Pairwise fun entry other => entry.1 ≠ other.1 := by
    have names : ((inOrder entries).map Prod.fst).Nodup :=
      ((List.mergeSort_perm entries.toList _).map Prod.fst).nodup_iff.mpr (names_nodup tidy)
    exact List.pairwise_map.mp names
  refine (sorted.and apart).imp fun ⟨ordered, different⟩ => ?_
  simp only [Name.le, decide_eq_true_eq] at ordered
  exact Std.lt_of_le_of_ne ordered fun same => different (Name.ext same)

/-- There is one strict order of entries with different names. -/
theorem inOrder_eq {sorted : List (Name × Node)} (tidy : entries.isTidy = true)
    (same : sorted.Perm entries.toList)
    (strict : sorted.Pairwise fun entry other => entry.1.bytes < other.1.bytes) :
    inOrder entries = sorted :=
  ((List.mergeSort_perm _ _).trans same.symm).eq_of_pairwise
    (fun _ _ _ _ before after => absurd after (List.lt_asymm before)) (inOrder_strict tidy) strict

/-- The visit to an entry of a directory, and those to what is below it. -/
def groupAt (path : Path) (entry : Name × Node) : List Visit :=
  .entry (path.join ⟨entry.1.bytes⟩) :: visitsBelow (path.join ⟨entry.1.bytes⟩) entry.2

theorem visitsOf_eq (path : Path) : ∀ entries : Entries,
    visitsOf path entries = entries.toList.map fun entry => (entry.1, groupAt path entry)
  | .nil => by rw [visitsOf]; rfl
  | .cons name node rest => by rw [visitsOf, visitsOf_eq path rest]; rfl

/-- A directory that can be looked into is visited entry by entry. -/
theorem visitsBelow_directory (mode : Nat) (entries : Entries)
    (short : path.bytes.length < pathLimit) :
    visitsBelow path (.directory mode entries) = (inOrder entries).flatMap (groupAt path) := by
  have ordered : (visitsOf path entries).mergeSort (fun group other => group.1.le other.1) =
      (inOrder entries).map fun entry => (entry.1, groupAt path entry) := by
    rw [visitsOf_eq, inOrder, List.map_mergeSort]
    exact fun _ _ _ _ => rfl
  rw [visitsBelow, if_neg (by omega), ordered, List.flatMap_map]

/-- The same with the entries put in order. -/
theorem visitsBelow_in_order (mode : Nat) {sorted : List (Name × Node)} (tidy : entries.isTidy = true)
    (short : path.bytes.length < pathLimit) (same : sorted.Perm entries.toList)
    (strict : sorted.Pairwise fun entry other => entry.1.bytes < other.1.bytes) :
    visitsBelow path (.directory mode entries) = sorted.flatMap (groupAt path) := by
  rw [visitsBelow_directory mode entries short, inOrder_eq tidy same strict]

theorem before_cons_iff {name other : Name} {rest rest' : Location} :
    Before (name :: rest) (other :: rest') ↔
      name.bytes < other.bytes ∨ name.bytes = other.bytes ∧ Before rest rest' := by
  rw [Before, List.map_cons, List.map_cons, List.cons_lt_cons_iff, Before]

/-- What a walk comes by in some entries of a directory: the places in and below
each of them, those of an earlier name before those of a later one. -/
theorem walks_entries (path : Path) (some : List (Name × Node))
    (strict : some.Pairwise fun entry other => entry.1.bytes < other.1.bytes)
    (each : ∀ entry ∈ some, ∃ places, Walks (path.join ⟨entry.1.bytes⟩) entry.2 places) :
    ∃ places : List Location,
      visited (some.flatMap (groupAt path)) = places.map (descend path) ∧
      places.Pairwise Before ∧
      ∀ names, names ∈ places ↔ ∃ name node rest, names = name :: rest ∧ (name, node) ∈ some ∧
        (node.below? rest).isSome ∧ Reached (path.join ⟨name.bytes⟩) rest := by
  induction some with
  | nil => exact ⟨[], rfl, .nil, by simp⟩
  | cons entry some ih =>
    obtain ⟨name, node⟩ := entry
    obtain ⟨first, others⟩ := List.pairwise_cons.mp strict
    obtain ⟨mine, walks⟩ := each (name, node) (by simp)
    obtain ⟨places, paths, ordered, exact⟩ :=
      ih others fun entry member => each entry (List.mem_cons_of_mem _ member)
    refine ⟨mine.map (name :: ·) ++ places, ?_, ?_, fun names => ?_⟩
    · have here : visited (groupAt path (name, node)) = (mine.map (name :: ·)).map (descend path) := by
        rw [groupAt, walks.paths, List.map_map]
        rfl
      rw [List.flatMap_cons, visited_append, List.map_append, paths, here]
    · refine List.pairwise_append.mpr ⟨?_, ordered, ?_⟩
      · refine List.pairwise_map.mpr (walks.ordered.imp fun before => ?_)
        exact before_cons_iff.mpr (.inr ⟨rfl, before⟩)
      · rintro _ member later reached
        obtain ⟨rest, -, rfl⟩ := List.mem_map.mp member
        obtain ⟨other, node', rest', rfl, held, -⟩ := (exact later).mp reached
        exact before_cons_iff.mpr (.inl (first _ held))
    · rw [List.mem_append, exact, List.mem_map]
      constructor
      · rintro (⟨rest, member, rfl⟩ | ⟨other, node', rest, rfl, held, stands, reached⟩)
        · obtain ⟨stands, reached⟩ := (walks.exact rest).mp member
          exact ⟨name, node, rest, rfl, by simp, stands, reached⟩
        · exact ⟨other, node', rest, rfl, by simp [held], stands, reached⟩
      · rintro ⟨other, node', rest, rfl, held, stands, reached⟩
        rcases List.mem_cons.mp held with same | held
        · cases same
          exact .inl ⟨rest, (walks.exact rest).mpr ⟨stands, reached⟩, rfl⟩
        · exact .inr ⟨other, node', rest, rfl, held, stands, reached⟩

/-- Where nothing is visited below a node, it is the only place there is. -/
theorem walks_alone (nothing : visited (visitsBelow path node) = [])
    (closed : ∀ name rest, ¬ ((node.below? (name :: rest)).isSome ∧ Reached path (name :: rest))) :
    Walks path node [[]] where
  paths := by
    rw [visited_entry, nothing]
    rfl
  ordered := List.pairwise_singleton _ _
  exact names := by
    cases names with
    | nil => simp [Node.below?, Reached]
    | cons name rest => simpa using closed name rest

mutual

/-- A walk over a tidy node comes by the places in and below it that can be reached,
in their order. -/
theorem node_walked : ∀ (node : Node) (path : Path), node.isTidy = true →
    ∃ places, Walks path node places
  | .directory mode entries, path, tidy => by
    by_cases short : path.bytes.length < pathLimit
    · have walked := entries_walked entries tidy
      obtain ⟨places, paths, ordered, exact⟩ := walks_entries path (inOrder entries)
        (inOrder_strict tidy) fun entry member => walked entry (mem_inOrder.mp member) _
      refine ⟨[] :: places, ?_, ?_, fun names => ?_⟩
      · rw [visited_entry, visitsBelow_directory mode entries short, paths]
        rfl
      · refine List.pairwise_cons.mpr ⟨fun names member => ?_, ordered⟩
        obtain ⟨name, node, rest, rfl, -⟩ := (exact names).mp member
        exact List.nil_lt_cons _ _
      · cases names with
        | nil => simp [Node.below?, Reached]
        | cons name rest =>
          simp only [List.mem_cons, reduceCtorEq, false_or, exact, reached_cons, short, true_and]
          constructor
          · rintro ⟨_, node, _, ⟨⟩, held, stands, reached⟩
            refine ⟨?_, reached⟩
            rw [Node.below?, (find_eq_some_iff name node tidy).mpr (mem_inOrder.mp held)]
            exact stands
          · rintro ⟨stands, reached⟩
            rw [Node.below?] at stands
            cases found : entries.find? name with
            | none =>
              rw [found] at stands
              cases stands
            | some node =>
              rw [found] at stands
              have held := (find_eq_some_iff name node tidy).mp found
              exact ⟨name, node, rest, rfl, mem_inOrder.mpr held, stands, reached⟩
    · refine ⟨[[]], walks_alone ?_ fun name rest => ?_⟩
      · rw [visitsBelow, if_pos (by omega)]
        rfl
      · rw [reached_cons]
        exact fun reached => short reached.2.1
  | .file _, _, _ => ⟨[[]], walks_alone rfl fun _ _ stands => by cases stands.1⟩
  | .device _, _, _ => ⟨[[]], walks_alone rfl fun _ _ stands => by cases stands.1⟩
  | .queue _, _, _ => ⟨[[]], walks_alone rfl fun _ _ stands => by cases stands.1⟩
  | .link _, _, _ => ⟨[[]], walks_alone rfl fun _ _ stands => by cases stands.1⟩

theorem entries_walked : ∀ (entries : Entries), entries.isTidy = true →
    ∀ entry ∈ entries.toList, ∀ path, ∃ places, Walks path entry.2 places
  | .nil, _, _, member, _ => by cases member
  | .cons name node rest, tidy, entry, member, path => by
    obtain ⟨-, first, others⟩ := Entries.isTidy_cons.mp tidy
    rw [Entries.toList, List.mem_cons] at member
    rcases member with rfl | member
    · exact node_walked node path first
    · exact entries_walked rest others entry member path

end

/-- A walk begins with what its root leads to, links followed. -/
theorem visits_eq (view : View) (root : Path) :
    visits view root = match view.stat root with
      | .error fault => [.unreadable root fault]
      | .ok node => .entry root :: visitsBelow root node := by
  unfold visits
  rcases stat_eq_linkStat view root with same | ⟨target, link⟩
  · rw [same]
    cases view.linkStat root with
    | error fault => rfl
    | ok node => cases node <;> rfl
  · cases view.stat root <;> simp only [link]

/-- The visits from a directory, its entries put in order. -/
theorem visits_in_order {view : View} {root : Path} {mode : Nat} {sorted : List (Name × Node)}
    (there : view.stat root = .ok (.directory mode entries)) (short : root.bytes.length < pathLimit)
    (same : sorted.Perm entries.toList)
    (strict : sorted.Pairwise fun entry other => entry.1.bytes < other.1.bytes) :
    visits view root = .entry root :: sorted.flatMap (groupAt root) := by
  rw [visits_eq, there]
  dsimp only
  rw [visitsBelow_in_order mode (stat_tidy there) short same strict]

/-- A place is below the root if the tree that the root leads to has it. A link in
that tree is a place, and nothing is below it. -/
def Below (view : View) (root : Path) (names : Location) : Prop :=
  ∃ node, view.stat root = .ok node ∧ (node.below? names).isSome

/-- The walk from a root comes by every place below it whose directory can be asked
for, each once and in their order. -/
theorem visits_walked (view : View) (root : Path) :
    ∃ places : List Location, visited (visits view root) = places.map (descend root) ∧
      places.Pairwise Before ∧
      ∀ names, names ∈ places ↔ Below view root names ∧ Reached root names := by
  rw [visits_eq]
  cases leads : view.stat root with
  | error fault => exact ⟨[], rfl, .nil, by simp [Below, leads]⟩
  | ok node =>
    obtain ⟨places, walks⟩ := node_walked node root (stat_tidy leads)
    exact ⟨places, walks.paths, walks.ordered, by simp [Below, leads, walks.exact]⟩

end ChangelogSql.TreeWalk
