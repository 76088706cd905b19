import ChangelogSql.Discovery.Scan
import ChangelogSql.Proofs.LossyText
import ChangelogSql.Proofs.TreeWalk
import Mathlib.Data.List.Sort

/-! What discovery finds, told without a walk: the changelogs below a root are a set
of places, decided for each place by itself, and they are found in the order of
places. One candidate that cannot be read is enough to find nothing, and it is the
first such that is reported; what cannot be looked at is passed over. -/
namespace ChangelogSql.DiscoveryExactness
open Files Discovery PathDescent TidyTree TreeWalk LossyText

/-- A byte of a path, with a backslash taken for a separator. -/
def slashed (b : UInt8) : UInt8 :=
  if b = 0x5C then separator else b

/-- A place that is opened if a walk comes by it: a regular file, links followed,
whose name ends in the extension behind something else, and whose path from the root
does not name build output. -/
structure Candidate (view : View) (root : Path) (names : Location) : Prop where
  file : view.isFile (descend root names) = true
  named : ∃ stem, stem ≠ [] ∧ (descend root names).fileName? = some (stem ++ Bytes.ofString ".xml")
  source : ¬ Bytes.ofString buildOutput <:+: (relative names).bytes.map slashed

/-- What is asked of an entry before it is opened. -/
def isCandidate (view : View) (root path : Path) : Bool :=
  view.isFile path && hasExtension path && !isBuildOutput root path

/-- Where the places in `seen` are walked, this is exactly what comes of it. It comes
to a list if every candidate can be read; the list is that of the candidates with the
marker in their bytes, in the order of places. It comes to a failure if that is about
the first candidate that cannot be read. -/
structure Exact (view : View) (root : Path) (seen : Location → Prop)
    (outcome : Except Failure (List Path)) : Prop where
  found : ∀ paths, outcome = .ok paths ↔
    (∀ names, seen names → Candidate view root names →
      ∃ content, view.read (descend root names) = .ok content) ∧
    ∃ places : List Location, paths = places.map (descend root) ∧ places.Pairwise Before ∧
      ∀ names, names ∈ places ↔ seen names ∧ Candidate view root names ∧
        ∃ content, view.read (descend root names) = .ok content ∧
          Bytes.ofString marker <:+: content
  failed : ∀ failure, outcome = .error failure ↔
    ∃ names fault, seen names ∧ Candidate view root names ∧
      view.read (descend root names) = .error fault ∧
      failure = .unreadable (descend root names) fault ∧
      ∀ earlier, seen earlier → Candidate view root earlier → Before earlier names →
        ∃ content, view.read (descend root earlier) = .ok content

/-- What comes of some visits, whoever made them. -/
def collected (view : View) (root : Path) (visits : List Visit) : Except Failure (List Path) :=
  let scan := Scan.along view root (fun path found => (.ok (), found ++ [path])) visits [] 0
  scan.outcome.map fun _ => scan.state

variable {view : View} {root path : Path} {names : Location} {failure : Failure}
variable {found paths : List Path} {visits : List Visit} {content : Bytes} {fault : Fault}

/-- The marker is looked for in the bytes. -/
theorem isMarked_iff : isMarked content = true ↔ Bytes.ofString marker <:+: content := by
  have plain : ∀ b ∈ Bytes.ofString marker, b < 0x80 := by decide +kernel
  have spelled : marker.toList = (Bytes.ofString marker).map asciiChar := rfl
  rw [isMarked, spelled, occursIn_decodeLossy plain]

/-- Build output is looked for in the bytes that are left behind the root. -/
theorem isBuildOutput_stripped : isBuildOutput root path = true ↔
    Bytes.ofString buildOutput <:+: ((path.stripBase? root).getD path).bytes.map slashed := by
  have plain : ∀ b ∈ Bytes.ofString buildOutput, b < 0x80 := by decide +kernel
  have spelled : buildOutput.toList = (Bytes.ofString buildOutput).map asciiChar := rfl
  have aligned (bytes : Bytes) : Aligned (bytes.map slashed)
      ((Text.Utf8.decodeLossy bytes).map fun c => if c = '\\' then '/' else c) := by
    refine (decodeLossy_aligned _).mapped _ _ (fun b small => ?_) (fun b high => ?_) fun c far => ?_
    · by_cases backslash : b = 0x5C
      · subst backslash
        decide
      · have other : asciiChar b ≠ '\\' := fun same =>
          backslash ((asciiChar_inj small (by decide)).mp same)
        simp [slashed, backslash, other, small]
    · have other : b ≠ 0x5C := by
        rintro rfl
        exact absurd high (by decide)
      simpa [slashed, other] using high
    · have other : c ≠ '\\' := by
        rintro rfl
        exact absurd far (by decide)
      simpa [other] using far
  rw [isBuildOutput]
  simp only [spelled]
  exact occursIn_iff.trans ((aligned _).holds plain)

theorem isBuildOutput_iff : isBuildOutput root (descend root names) = true ↔
    Bytes.ofString buildOutput <:+: (relative names).bytes.map slashed := by
  rw [isBuildOutput_stripped, strip_descend, Option.getD_some]

theorem hasExtension_iff : hasExtension path = true ↔
    ∃ stem, stem ≠ [] ∧ path.fileName? = some (stem ++ Bytes.ofString ".xml") := by
  have written : Bytes.ofString ".xml" = Path.dot :: Bytes.ofString extension := by decide
  have undotted : Path.dot ∉ Bytes.ofString extension := by decide
  rw [hasExtension, decide_eq_true_iff, extension_eq_some_iff undotted, written]

/-- A path that leads to a file can be asked for, and so can the directory it is in. -/
theorem reached_of_isFile (file : view.isFile (descend root names) = true) : Reached root names := by
  have short : (descend root names).bytes.length < pathLimit := by
    by_contra long
    have refused : view.stat (descend root names) = .error .nulInPath ∨
        view.stat (descend root names) = .error .nameTooLong := by
      simp only [View.stat, Disk.lookup, if_pos (Nat.le_of_not_lt long)]
      split
      · exact .inl rfl
      · exact .inr rfl
    rcases refused with refused | refused <;> simp [View.isFile, refused] at file
  cases names using List.reverseRecOn with
  | nil => exact .inl rfl
  | append_singleton names last =>
    have longer := descend_longer (descend root names) [last]
    rw [descend_cons, descend_nil, ← descend_concat] at longer
    refine .inr ?_
    rw [List.dropLast_concat]
    omega

/-- The entries that are opened are the candidates. -/
theorem candidate_iff : Candidate view root names ↔ isCandidate view root (descend root names) = true := by
  simp only [isCandidate, Bool.and_eq_true, hasExtension_iff, Bool.not_eq_true', ← Bool.not_eq_true,
    isBuildOutput_iff]
  exact ⟨fun ⟨file, named, source⟩ => ⟨⟨file, named⟩, source⟩,
    fun ⟨⟨file, named⟩, source⟩ => ⟨file, named, source⟩⟩

/-- What is opened is judged by its content. -/
theorem judge_opened (candidate : isCandidate view root path = true) :
    judge view root path = match view.read path with
      | .error fault => .unreadable fault
      | .ok content => if isMarked content then .changelog else .unmarked := by
  simp only [isCandidate, Bool.and_eq_true, Bool.not_eq_true'] at candidate
  obtain ⟨⟨file, named⟩, source⟩ := candidate
  simp only [judge, file, named, source, looksLikeChangelog]
  cases view.read path with
  | error fault => rfl
  | ok content => cases marked : isMarked content <;> simp [Functor.map, Except.map, marked]

theorem judge_unopened (other : isCandidate view root path = false) :
    judge view root path = .other ∨ judge view root path = .buildOutput := by
  unfold judge
  split
  · exact .inl rfl
  split
  · exact .inr rfl
  next opened output =>
  simp_all [isCandidate]

theorem judge_changelog_iff : judge view root (descend root names) = .changelog ↔ Candidate view root names ∧
      ∃ content, view.read (descend root names) = .ok content ∧
        Bytes.ofString marker <:+: content := by
  by_cases candidate : Candidate view root names
  · rw [judge_opened (candidate_iff.mp candidate)]
    cases view.read (descend root names) with
    | error fault => simp
    | ok content =>
      simp [candidate, ← isMarked_iff]
  · rcases judge_unopened (by simpa [candidate_iff] using candidate) with verdict | verdict <;>
      simp [verdict, candidate]

theorem judge_unreadable_iff : judge view root (descend root names) = .unreadable fault ↔ Candidate view root names ∧
      view.read (descend root names) = .error fault := by
  by_cases candidate : Candidate view root names
  · rw [judge_opened (candidate_iff.mp candidate)]
    cases view.read (descend root names) with
    | error fault => simp [candidate]
    | ok content => cases marked : isMarked content <;> simp [marked]
  · rcases judge_unopened (by simpa [candidate_iff] using candidate) with verdict | verdict <;>
      simp [verdict, candidate]

/-- An entry does not end the walk. -/
def Readable (view : View) (root path : Path) : Prop :=
  ∀ fault, judge view root path ≠ .unreadable fault

/-- A walk that nothing ends collects the changelogs among its entries. -/
theorem along_readable (visits : List Visit) (found : List Path) (count : Nat)
    (readable : ∀ path ∈ visited visits, Readable view root path) :
    let scan := Scan.along view root (fun path found => (.ok (), found ++ [path])) visits found count
    (∃ total, scan.outcome = .ok total) ∧
      scan.state = found ++ (visited visits).filter fun path => judge view root path = .changelog := by
  induction visits generalizing found count with
  | nil => exact ⟨⟨count, rfl⟩, by simp [Scan.along, visited]⟩
  | cons visit visits ih =>
    cases visit with
    | unreadable path fault => exact ih found count readable
    | entry path =>
      rw [visited_entry, List.forall_mem_cons] at readable
      obtain ⟨first, others⟩ := readable
      simp only [Scan.along, visited_entry, List.filter_cons]
      cases verdict : judge view root path with
      | other => simpa using ih found count others
      | unmarked => simpa using ih found count others
      | buildOutput => simpa [Scan.noting] using ih found count others
      | unreadable fault => exact absurd verdict (first fault)
      | changelog => simpa using ih (found ++ [path]) (count + 1) others

/-- The first entry that cannot be read ends the walk. -/
theorem along_unreadable (visits : List Visit) (found : List Path) (count : Nat)
    {before after : List Path} (entries : visited visits = before ++ path :: after)
    (readable : ∀ path ∈ before, Readable view root path)
    (ends : judge view root path = .unreadable fault) :
    (Scan.along view root (fun path found => (.ok (), found ++ [path])) visits found count).outcome =
      .error (.unreadable path fault) := by
  induction visits generalizing found count before with
  | nil => simp [visited] at entries
  | cons visit visits ih =>
    cases visit with
    | unreadable path fault => exact ih found count entries readable
    | entry first =>
      rw [visited_entry] at entries
      cases before with
      | nil =>
        simp only [List.nil_append, List.cons.injEq] at entries
        simp [Scan.along, entries.1, ends]
      | cons _ before =>
        simp only [List.cons_append, List.cons.injEq] at entries
        obtain ⟨rfl, entries⟩ := entries
        obtain ⟨passes, others⟩ := List.forall_mem_cons.mp readable
        simp only [Scan.along]
        cases verdict : judge view root first with
        | other => exact ih found count entries others
        | unmarked => exact ih found count entries others
        | buildOutput => exact ih found count entries others
        | unreadable fault => exact absurd verdict (passes fault)
        | changelog => exact ih (found ++ [first]) (count + 1) entries others

/-- Either nothing ends a walk, or something is the first to do so. -/
theorem readable_or_first (view : View) (root : Path) (paths : List Path) :
    (∀ path ∈ paths, Readable view root path) ∨
      ∃ before path after fault, paths = before ++ path :: after ∧
        (∀ path ∈ before, Readable view root path) ∧ judge view root path = .unreadable fault := by
  induction paths with
  | nil => exact .inl (by simp)
  | cons path paths ih =>
    by_cases passes : Readable view root path
    · rcases ih with readable | ⟨before, later, after, fault, rfl, readable, ends⟩
      · exact .inl (List.forall_mem_cons.mpr ⟨passes, readable⟩)
      · exact .inr ⟨path :: before, later, after, fault, rfl,
          List.forall_mem_cons.mpr ⟨passes, readable⟩, ends⟩
    · simp only [Readable, not_forall, ne_eq, not_not] at passes
      obtain ⟨fault, ends⟩ := passes
      exact .inr ⟨[], path, paths, fault, rfl, by simp, ends⟩

/-- Visits come to a list exactly if nothing ends the walk, and then to the
changelogs among the entries. -/
theorem collected_ok_iff : collected view root visits = .ok found ↔
    (∀ path ∈ visited visits, Readable view root path) ∧
      found = (visited visits).filter fun path => judge view root path = .changelog := by
  unfold collected
  dsimp only
  rcases readable_or_first view root (visited visits) with
    readable | ⟨before, path, after, fault, entries, passes, ends⟩
  · obtain ⟨⟨total, outcome⟩, state⟩ := along_readable visits [] 0 readable
    rw [List.nil_append] at state
    rw [outcome, state]
    exact ⟨fun same => ⟨readable, (Except.ok.inj same).symm⟩, fun same => by rw [same.2]; rfl⟩
  · rw [along_unreadable visits [] 0 entries passes ends]
    refine ⟨fun never => (by cases never), fun ⟨readable, _⟩ => absurd ends ?_⟩
    exact readable path (by simp [entries]) fault

/-- Visits come to a failure exactly if it is that of the first entry that cannot be
read. -/
theorem collected_error_iff : collected view root visits = .error failure ↔
    ∃ before path after fault, visited visits = before ++ path :: after ∧
      (∀ path ∈ before, Readable view root path) ∧ judge view root path = .unreadable fault ∧
      failure = .unreadable path fault := by
  constructor
  · intro failed
    rcases readable_or_first view root (visited visits) with
      readable | ⟨before, path, after, fault, entries, passes, ends⟩
    · rw [collected_ok_iff.mpr ⟨readable, rfl⟩] at failed
      cases failed
    · rw [collected, along_unreadable visits [] 0 entries passes ends] at failed
      cases failed
      exact ⟨before, path, after, fault, entries, passes, ends, rfl⟩
  · rintro ⟨before, path, after, fault, entries, passes, ends, rfl⟩
    rw [collected, along_unreadable visits [] 0 entries passes ends]
    rfl

instance : Std.Irrefl Before := ⟨fun names => List.lt_irrefl (names.map Name.bytes)⟩

instance : Std.Antisymm Before := ⟨fun _ _ before after => absurd after (List.lt_asymm before)⟩

variable {places : List Location} {seen seen' : Location → Prop}
variable {outcome : Except Failure (List Path)}

theorem readable_iff : Readable view root (descend root names) ↔
    (Candidate view root names → ∃ content, view.read (descend root names) = .ok content) := by
  simp only [Readable, ne_eq, judge_unreadable_iff, not_and]
  cases view.read (descend root names) <;> simp

/-- The changelogs among some places are the candidates that are marked. -/
theorem mem_changelogs_iff :
    names ∈ places.filter ((fun path => judge view root path = .changelog) ∘ descend root) ↔
      names ∈ places ∧ Candidate view root names ∧
        ∃ content, view.read (descend root names) = .ok content ∧
          Bytes.ofString marker <:+: content := by
  rw [List.mem_filter, Function.comp_apply, decide_eq_true_iff, judge_changelog_iff]

/-- A walk by any places in their order comes to exactly what it should, whatever it
could not look at on the way. -/
theorem collected_exact (entries : visited visits = places.map (descend root))
    (ordered : places.Pairwise Before) :
    Exact view root (· ∈ places) (collected view root visits) where
  found paths := by
    rw [collected_ok_iff, entries, List.forall_mem_map, List.filter_map]
    simp only [readable_iff]
    refine and_congr_right fun _ => ⟨?_, ?_⟩
    · rintro rfl
      exact ⟨_, rfl, ordered.filter _, fun _ => mem_changelogs_iff⟩
    · rintro ⟨others, rfl, ordered', exact'⟩
      have same := ordered'.eq_of_mem_iff (ordered.filter _) fun names =>
        (exact' names).trans mem_changelogs_iff.symm
      rw [same]
  failed failure := by
    rw [collected_error_iff, entries]
    constructor
    · rintro ⟨before, path, after, fault, cut, readable, ends, rfl⟩
      obtain ⟨front, back, rfl, rfl, split⟩ := List.map_eq_append_iff.mp cut
      obtain ⟨names, rest, rfl, rfl, rfl⟩ := List.map_eq_cons_iff.mp split
      obtain ⟨candidate, unread⟩ := judge_unreadable_iff.mp ends
      refine ⟨names, fault, by simp, candidate, unread, rfl, fun earlier member candidate' before => ?_⟩
      have inFront : earlier ∈ front := by
        rcases List.mem_append.mp member with inFront | behind
        · exact inFront
        · have later := (List.pairwise_append.mp ordered).2.1
          rcases List.mem_cons.mp behind with rfl | behind
          · exact absurd before (List.lt_irrefl _)
          · exact absurd before (List.lt_asymm (List.rel_of_pairwise_cons later behind))
      exact readable_iff.mp (readable _ (List.mem_map_of_mem inFront)) candidate'
    · rintro ⟨names, fault, member, candidate, unread, rfl, first⟩
      obtain ⟨front, rest, rfl⟩ := List.append_of_mem member
      refine ⟨front.map (descend root), descend root names, rest.map (descend root), fault, by simp,
        ?_, judge_unreadable_iff.mpr ⟨candidate, unread⟩, rfl⟩
      refine List.forall_mem_map.mpr fun earlier inFront => readable_iff.mpr fun candidate' => ?_
      exact first earlier (by simp [inFront]) candidate'
        ((List.pairwise_append.mp ordered).2.2 _ inFront _ (by simp))

/-- Where the same candidates are seen and the same is read of them, the same comes of it. -/
theorem Exact.congr {view' : View} (exact : Exact view root seen outcome)
    (same : ∀ names (holds : Except Fault Bytes → Prop),
      seen names ∧ Candidate view root names ∧ holds (view.read (descend root names)) ↔
        seen' names ∧ Candidate view' root names ∧ holds (view'.read (descend root names))) :
    Exact view' root seen' outcome := by
  have every (names : Location) (holds : Except Fault Bytes → Prop) :
      (seen names → Candidate view root names → holds (view.read (descend root names))) ↔
        (seen' names → Candidate view' root names → holds (view'.read (descend root names))) := by
    simpa only [not_and, not_not] using not_congr (same names fun read => ¬ holds read)
  refine ⟨fun paths => (exact.found paths).trans ?_, fun failure => (exact.failed failure).trans ?_⟩
  · refine and_congr (forall_congr' fun names => every names (∃ content, · = .ok content))
      (exists_congr fun places => and_congr_right fun _ => and_congr_right fun _ =>
        forall_congr' fun names => iff_congr Iff.rfl ?_)
    exact same names (∃ content, · = .ok content ∧ Bytes.ofString marker <:+: content)
  · refine exists_congr fun names => exists_congr fun fault => ?_
    have earlier : (∀ earlier, seen earlier → Candidate view root earlier → Before earlier names →
          ∃ content, view.read (descend root earlier) = .ok content) ↔
        ∀ earlier, seen' earlier → Candidate view' root earlier → Before earlier names →
          ∃ content, view'.read (descend root earlier) = .ok content :=
      forall_congr' fun earlier => every earlier (Before earlier names → ∃ content, · = .ok content)
    rw [earlier]
    exact same names fun read => read = .error fault ∧ failure = .unreadable (descend root names) fault ∧ _

theorem Exact.unique {outcome' : Except Failure (List Path)} (exact : Exact view root seen outcome)
    (exact' : Exact view root seen outcome') : outcome = outcome' := by
  cases outcome with
  | ok paths => exact ((exact'.found paths).mpr ((exact.found paths).mp rfl)).symm
  | error failure => exact ((exact'.failed failure).mpr ((exact.failed failure).mp rfl)).symm

/-- The walk from a root comes by every candidate in the tree, and so to exactly what
it should. -/
theorem changelogs_exact (view : View) (root : Path) :
    Exact view root (Below view root) (changelogs view root).1 := by
  obtain ⟨places, entries, ordered, exact⟩ := visits_walked view root
  have walked : Exact view root (· ∈ places) (changelogs view root).1 :=
    collected_exact entries ordered
  refine walked.congr fun names holds => and_congr_left fun met => ?_
  rw [exact]
  exact and_iff_left (reached_of_isFile met.1.file)

/-- What is found are candidates below the root, each of them once. -/
theorem changelogs_found (collects : (changelogs view root).1 = .ok found) :
    found.Nodup ∧ ∀ path ∈ found, ∃ names, path = descend root names ∧ Candidate view root names := by
  obtain ⟨-, places, rfl, ordered, members⟩ := ((changelogs_exact view root).found found).mp collects
  refine ⟨ordered.nodup.map (descend_injective root), List.forall_mem_map.mpr fun names member => ?_⟩
  exact ⟨names, rfl, ((members names).mp member).2.1⟩

/-- What discovery finds, for whatever stands below the root: its walk comes to exactly
what it should. The same holds of any other walk by places in their order, whatever
cannot be looked at in between. Behind the root, the path of a place has the names of
the place for its components. -/
theorem discovery_exact (view : View) (root : Path) :
    Exact view root (Below view root) (changelogs view root).1 ∧
    (∀ (visits : List Visit) (places : List Location),
      visited visits = places.map (descend root) → places.Pairwise Before →
      Exact view root (· ∈ places) (collected view root visits)) ∧
    (∀ names, (descend root names).stripBase? root = some (relative names) ∧
      (relative names).components = names.map fun name => .normal name.bytes) := by
  exact ⟨changelogs_exact view root, fun visits places => collected_exact,
    fun names => ⟨strip_descend root names, relative_components names⟩⟩

/-- A tree with directories, with links to a directory, to a file and to themselves,
with build output, and with a file without the marker. -/
def crowdedTree : Node :=
  .directory programMode
    (.cons ⟨Bytes.ofString "a", by decide⟩
      (.directory programMode (.cons ⟨Bytes.ofString "z.xml", by decide⟩ (.file 0) .nil))
    (.cons ⟨Bytes.ofString "a.xml", by decide⟩ (.file 0)
    (.cons ⟨Bytes.ofString "d", by decide⟩ (.link (Path.ofString "a"))
    (.cons ⟨Bytes.ofString "l.xml", by decide⟩ (.link (Path.ofString "a/z.xml"))
    (.cons ⟨Bytes.ofString "m.xml", by decide⟩ (.link (Path.ofString "m.xml"))
    (.cons ⟨Bytes.ofString "n.xml", by decide⟩ (.file 1)
    (.cons ⟨Bytes.ofString "target", by decide⟩
      (.directory programMode (.cons ⟨Bytes.ofString "classes.xml", by decide⟩ (.file 0) .nil))
    .nil)))))))

/-- A view of a disk that has the tree in one directory. -/
def crowdedView : View where
  disk := {
    top := .cons ⟨Bytes.ofString "r", by decide⟩ crowdedTree .nil
    files := #[⟨.bytes (Bytes.ofString "<databaseChangeLog/>"), plainMode, 0⟩,
      ⟨.bytes [], plainMode, 0⟩]
    clock := 0
    tidy := rfl }
  cwd := []

theorem crowded_visits : Discovery.visits crowdedView (Path.ofString "/r") =
    [.entry (Path.ofString "/r"), .entry (Path.ofString "/r/a"), .entry (Path.ofString "/r/a/z.xml"),
      .entry (Path.ofString "/r/a.xml"), .entry (Path.ofString "/r/d"),
      .entry (Path.ofString "/r/l.xml"), .entry (Path.ofString "/r/m.xml"),
      .entry (Path.ofString "/r/n.xml"), .entry (Path.ofString "/r/target"),
      .entry (Path.ofString "/r/target/classes.xml")] := by
  have there : crowdedView.stat (Path.ofString "/r") = .ok crowdedTree := rfl
  rw [visits_in_order there (by decide) (.refl _) (by decide)]
  simp only [Entries.toList, List.flatMap_cons, groupAt]
  rw [visitsBelow_in_order _ rfl (by decide) (.refl _) (by decide),
    visitsBelow_in_order _ rfl (by decide) (.refl _) (by decide)]
  decide

/-- In the crowded tree three changelogs are found, and no candidate is missed: not
the one behind a link to a directory, which is not below the root. -/
theorem crowded_discovery :
    (changelogs crowdedView (Path.ofString "/r")).1 =
      .ok [Path.ofString "/r/a/z.xml", Path.ofString "/r/a.xml", Path.ofString "/r/l.xml"] ∧
    ∀ names, Below crowdedView (Path.ofString "/r") names →
      Candidate crowdedView (Path.ofString "/r") names →
      (∃ content, crowdedView.read (descend (Path.ofString "/r") names) = .ok content ∧
        Bytes.ofString marker <:+: content) →
      descend (Path.ofString "/r") names ∈
        [Path.ofString "/r/a/z.xml", Path.ofString "/r/a.xml", Path.ofString "/r/l.xml"] := by
  have found : (changelogs crowdedView (Path.ofString "/r")).1 =
      .ok [Path.ofString "/r/a/z.xml", Path.ofString "/r/a.xml", Path.ofString "/r/l.xml"] := by
    simp only [changelogs, scan, crowded_visits]
    decide
  refine ⟨found, fun names below candidate marked => ?_⟩
  obtain ⟨exact, -, -⟩ := discovery_exact crowdedView (Path.ofString "/r")
  obtain ⟨-, places, paths, -, members⟩ := (exact.found _).mp found
  rw [paths]
  exact List.mem_map_of_mem ((members names).mpr ⟨below, candidate, marked⟩)

end ChangelogSql.DiscoveryExactness
