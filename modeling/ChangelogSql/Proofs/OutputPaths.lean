import ChangelogSql.Proofs.RootedSearch

/-! Where the result of a conversion is said to be. What is found below a directory is
called after a stem, and its result is told in the same directory by the same stem with the
other extension. One stem is an exception: that of `..xml` is a dot, and in place of
`..sql` stands `..`, which is not in the directory but above it. -/
namespace ChangelogSql.OutputPaths
open Files Discovery PathComponents PathDescent TreeWalk DiscoveryExactness RootedSearch

/-- What a changelog with some stem is called. -/
def sourceName (stem : Bytes) : Bytes :=
  stem ++ Bytes.ofString ".xml"

/-- What its result should be called. -/
def resultName (stem : Bytes) : Bytes :=
  stem ++ Bytes.ofString ".sql"

/-- What the result is called where it is told. -/
def toldName (stem : Bytes) : Bytes :=
  if stem = [Path.dot] then [Path.dot, Path.dot] else resultName stem

/-- What this denotes behind the directory. -/
def toldComponent (stem : Bytes) : Path.Component :=
  if stem = [Path.dot] then .up else .normal (resultName stem)

variable {view : View} {root path directory : Path} {found : List Path}
variable {stem name ending : Bytes}

theorem sourceName_eq (stem : Bytes) :
    sourceName stem = stem ++ Path.dot :: Bytes.ofString extension := rfl

theorem resultName_eq (stem : Bytes) :
    resultName stem = stem ++ Path.dot :: Bytes.ofString Output.format := rfl

/-- Behind the stem of a name there can be another ending, unless dots alone come of it. -/
theorem isName_reended (filled : stem ≠ []) (proper : isName (sourceName stem) = true)
    (other : stem ++ Path.dot :: ending ≠ [Path.dot, Path.dot])
    (free : separator ∉ ending) (nulFree : 0 ∉ ending) :
    isName (stem ++ Path.dot :: ending) = true := by
  rw [sourceName_eq] at proper
  obtain ⟨-, -, -, separatorFree, zeroFree⟩ := isName_iff.mp proper
  simp only [List.mem_append, List.mem_cons, not_or] at separatorFree zeroFree
  have long : stem ++ Path.dot :: ending ≠ [Path.dot] := by
    cases stem <;> simp_all
  simp only [isName_iff, List.mem_append, List.mem_cons, not_or]
  exact ⟨by simp, long, other, ⟨separatorFree.1, separatorFree.2.1, free⟩,
    zeroFree.1, zeroFree.2.1, nulFree⟩

theorem resultName_isName (filled : stem ≠ []) (proper : isName (sourceName stem) = true) :
    isName (resultName stem) = true := by
  have long : stem ++ Path.dot :: Bytes.ofString Output.format ≠ [Path.dot, Path.dot] := by
    have format : Bytes.ofString Output.format = [0x73, 0x71, 0x6C] := by decide
    intro short
    have lengths := congrArg List.length short
    simp [format] at lengths
  rw [resultName_eq]
  exact isName_reended filled proper long (by decide) (by decide)

/-- The extension of an entry of a directory is set behind the stem of its name. -/
theorem setExtension_join (directory : Path) (proper : isName name = true)
    (cut : (Path.cutAtLastDot name).1 = stem)
    (proper' : isName (stem ++ Path.dot :: ending) = true) :
    (directory.join ⟨name⟩).setExtension ending = directory.join ⟨stem ++ Path.dot :: ending⟩ := by
  obtain ⟨-, free, speaks, -⟩ := name_speaks proper
  obtain ⟨-, free', speaks', -⟩ := name_speaks proper'
  have own : (directory.join ⟨name⟩).stem? = some stem := by
    rw [Path.stem?, fileName_join directory proper, Option.map_some, cut]
  rw [← ofParts_parts (directory.join ⟨stem ++ Path.dot :: ending⟩), parts_join _ speaks' free',
    Path.setExtension, own]
  simp only [parts_join _ speaks free, trimRight_speaking _ speaks, List.dropLast_concat]

/-- What is above a directory has no name there, and so no extension is set. -/
theorem setExtension_up (directory : Path) :
    (directory.join ⟨[Path.dot, Path.dot]⟩).setExtension ending =
      directory.join ⟨[Path.dot, Path.dot]⟩ := by
  have up : (directory.join ⟨[Path.dot, Path.dot]⟩).components = directory.components ++ [.up] :=
    components_join_piece directory (by decide) (by decide)
  have unnamed : (directory.join ⟨[Path.dot, Path.dot]⟩).stem? = none := by
    rw [Path.stem?, Path.fileName?, up, List.getLast?_concat]
    rfl
  rw [Path.setExtension, unnamed]

/-- From what has a name in some directory the extension is cut first, and the dot in front
of it stays. -/
theorem shortened_join (directory : Path) (filled : stem ≠ [])
    (proper : isName (sourceName stem) = true) :
    let written := (directory.join ⟨sourceName stem⟩).bytes
    written.take (written.length - (Bytes.ofString extension).length) =
      (directory.join ⟨stem ++ [Path.dot]⟩).bytes := by
  have relative : Path.isAbsolute ⟨sourceName stem⟩ = false := by
    obtain ⟨-, free, speaks, -⟩ := name_speaks proper
    exact relative_of_speaking speaks free
  have relative' : Path.isAbsolute ⟨stem ++ [Path.dot]⟩ = false := by
    cases stem with
    | nil => exact absurd rfl filled
    | cons b rest => exact relative
  dsimp only
  rw [join_relative directory relative, join_relative directory relative', sourceName_eq]
  have cut : stem ++ Path.dot :: Bytes.ofString extension =
      (stem ++ [Path.dot]) ++ Bytes.ofString extension := by simp
  rw [cut, ← List.append_assoc]
  refine List.take_left' ?_
  simp only [List.length_append]
  omega

/-- The result of what has a name in some directory is told in its place. -/
theorem pathFor_join (directory : Path) (filled : stem ≠ [])
    (proper : isName (sourceName stem) = true) :
    Output.pathFor (directory.join ⟨sourceName stem⟩) = directory.join ⟨toldName stem⟩ := by
  have undotted : Path.dot ∉ Bytes.ofString extension := by decide
  have extended : (directory.join ⟨sourceName stem⟩).extension? = some (Bytes.ofString extension) :=
    (extension_eq_some_iff undotted).mpr ⟨stem, filled, fileName_join directory proper⟩
  rw [Output.pathFor, Path.withExtension, extended]
  simp only [shortened_join directory filled proper]
  by_cases lone : stem = [Path.dot]
  · rw [toldName, if_pos lone, lone]
    exact setExtension_up directory
  · have other : stem ++ [Path.dot] ≠ [Path.dot] ++ [Path.dot] :=
      fun dots => lone (List.append_cancel_right dots)
    have cut : (Path.cutAtLastDot (stem ++ [Path.dot])).1 = stem :=
      congrArg Prod.fst (cutAtLastDot_append (by simp) filled)
    have renamed := resultName_isName filled proper
    rw [resultName_eq] at renamed
    rw [toldName, if_neg lone, resultName_eq]
    exact setExtension_join directory (isName_reended filled proper other (by simp) (by simp)) cut
      renamed

theorem toldName_spoken (filled : stem ≠ []) (proper : isName (sourceName stem) = true) :
    Path.silent (toldName stem) = false ∧ separator ∉ toldName stem ∧
      Path.component? (toldName stem) = some (toldComponent stem) := by
  unfold toldName toldComponent
  split
  · decide
  · obtain ⟨-, free, speaks, normal⟩ := name_speaks (resultName_isName filled proper)
    exact ⟨speaks, free, normal⟩

theorem pathFor_components (directory : Path) (filled : stem ≠ [])
    (proper : isName (sourceName stem) = true) :
    (Output.pathFor (directory.join ⟨sourceName stem⟩)).components =
      directory.components ++ [toldComponent stem] := by
  obtain ⟨-, free, spelled⟩ := toldName_spoken filled proper
  rw [pathFor_join directory filled proper, components_join_piece directory free spelled]

/-- There is no directory at the empty path. -/
theorem written_of_isDirectory (there : view.isDirectory root = true) : root.bytes ≠ [] := by
  intro empty
  have missing : view.stat root = .error .notFound := by
    cases root
    cases empty
    rfl
  simp [View.isDirectory, missing] at there

theorem not_isFile_of_isDirectory (there : view.isDirectory root = true) :
    view.isFile root = false := by
  unfold View.isDirectory at there
  split at there
  next found => simp [View.isFile, found]
  next => cases there

/-- What is found below a directory is in some directory there, called after a stem. -/
theorem changelog_named (there : view.isDirectory root = true)
    (collects : (changelogs view root).1 = .ok found) :
    ∀ path ∈ found, ∃ front stem, stem ≠ [] ∧ isName (sourceName stem) = true ∧
      path = (descend root front).join ⟨sourceName stem⟩ := by
  intro path member
  obtain ⟨names, below, rfl⟩ :=
    changelog_descends (not_isFile_of_isDirectory there) collects path member
  have walked : collected view root (visits view root) = .ok found := collects
  obtain ⟨-, rfl⟩ := collected_ok_iff.mp walked
  have verdict : judge view root (descend root names) = .changelog := by
    simpa using (List.mem_filter.mp member).2
  obtain ⟨stem, filled, named⟩ := (judge_changelog_iff.mp verdict).1.named
  cases names using List.reverseRecOn with
  | nil => exact absurd rfl below
  | append_singleton front last =>
    rw [descend_concat, fileName_join _ last.proper, Option.some.injEq] at named
    refine ⟨front, stem, filled, ?_, ?_⟩
    · rw [sourceName, ← named]
      exact last.proper
    · rw [descend_concat, named]
      rfl

/-- What is in a directory is converted where its path has its parent, unless the directory
is the empty path. -/
theorem parent_eq_workingDirectory (written : directory.bytes ≠ [])
    (speaks : Path.silent name = false) (free : separator ∉ name) :
    (directory.join ⟨name⟩).parent? = some (Output.workingDirectory (directory.join ⟨name⟩)) := by
  obtain ⟨component, spelled⟩ := Option.isSome_iff_exists.mp (component_of_speaking speaks)
  cases above : (directory.join ⟨name⟩).parent? with
  | none => rw [parent_join directory speaks free] at above; cases above
  | some parent =>
    have same : parent.components = directory.components := by
      rw [parent_components above, components_join_piece directory free spelled,
        List.dropLast_concat]
    have some : parent.bytes ≠ [] := by
      rwa [ne_eq, ← components_eq_nil_iff, same, components_eq_nil_iff]
    rw [Output.workingDirectory, above]
    exact congrArg Option.some (if_neg some).symm

theorem stem_join (directory : Path) (filled : stem ≠ [])
    (proper : isName (sourceName stem) = true) :
    (directory.join ⟨sourceName stem⟩).stem? = some stem := by
  have undotted : Path.dot ∉ Bytes.ofString extension := by decide
  rw [Path.stem?, fileName_join directory proper, Option.map_some, sourceName_eq,
    cutAtLastDot_append undotted filled]

/-- Below a directory, every changelog that is found is called after a stem, and what is
told as its result has the same parent, which is where the conversion takes place. There it
is called after the same stem, with one exception: what is told for `..xml` is the directory
above. -/
theorem result_beside_changelog (view : View) (root : Path) (found : List Path)
    (there : view.isDirectory root = true) (collects : (changelogs view root).1 = .ok found) :
    ∀ path ∈ found, ∃ stem, stem ≠ [] ∧ path.fileName? = some (sourceName stem) ∧
      path.stem? = some stem ∧ path.parent? = some (Output.workingDirectory path) ∧
      (Output.pathFor path).parent? = some (Output.workingDirectory path) ∧
      (stem ≠ [Path.dot] → (Output.pathFor path).fileName? = some (resultName stem)) ∧
      (stem = [Path.dot] → (Output.pathFor path).fileName? = none ∧
        (Output.pathFor path).components = (Output.workingDirectory path).components ++ [.up]) := by
  intro path member
  obtain ⟨front, stem, filled, proper, rfl⟩ := changelog_named there collects path member
  have written : (descend root front).bytes ≠ [] := by
    have longer := descend_longer root front
    have some := List.length_pos_iff.mpr (written_of_isDirectory there)
    exact List.length_pos_iff.mp (by omega)
  obtain ⟨-, free, speaks, -⟩ := name_speaks proper
  obtain ⟨speaks', free', -⟩ := toldName_spoken filled proper
  have beside := parent_eq_workingDirectory written speaks free
  have components := pathFor_components (descend root front) filled proper
  refine ⟨stem, filled, fileName_join _ proper, stem_join _ filled proper, beside,
    ?_, fun named => ?_, fun lone => ?_⟩
  · rw [pathFor_join _ filled proper, parent_join _ speaks' free', ← parent_join _ speaks free,
      beside]
  · rw [Path.fileName?, components, List.getLast?_concat, toldComponent, if_neg named]
  · rw [Path.fileName?, components, List.getLast?_concat, toldComponent, if_pos lone,
      parent_components beside, components_join _ _ proper, List.dropLast_concat]
    exact ⟨rfl, rfl⟩

/-- A tree with changelogs that have dots in front and in between, one with nothing but dots
before its extension. -/
def dottedTree : Node :=
  .directory programMode
    (.cons ⟨Bytes.ofString "..xml", by decide⟩ (.file 0)
    (.cons ⟨Bytes.ofString ".a.b.xml", by decide⟩ (.file 0) .nil))

/-- A view of a disk that has the tree in one directory. -/
def dottedView : View where
  disk := {
    top := .cons ⟨Bytes.ofString "dots", by decide⟩ dottedTree .nil
    files := #[⟨.bytes (Bytes.ofString "<databaseChangeLog/>"), plainMode, 0⟩]
    clock := 0
    tidy := rfl }
  cwd := []

theorem dotted_visits : Discovery.visits dottedView (Path.ofString "/dots") =
    [.entry (Path.ofString "/dots"), .entry (Path.ofString "/dots/..xml"),
      .entry (Path.ofString "/dots/.a.b.xml")] := by
  have there : dottedView.stat (Path.ofString "/dots") = .ok dottedTree := rfl
  rw [visits_in_order there (by decide) (.refl _) (by decide)]
  decide

theorem dotted_discovery : (changelogs dottedView (Path.ofString "/dots")).1 =
    .ok [Path.ofString "/dots/..xml", Path.ofString "/dots/.a.b.xml"] := by
  simp only [changelogs, scan, dotted_visits]
  decide

/-- The names with dots in front and in between keep their stem, the one with nothing but
dots loses it. -/
theorem dotted_results :
    dottedView.isDirectory (Path.ofString "/dots") = true ∧
    (changelogs dottedView (Path.ofString "/dots")).1 =
      .ok [Path.ofString "/dots/..xml", Path.ofString "/dots/.a.b.xml"] ∧
    (Output.pathFor (Path.ofString "/dots/.a.b.xml")).fileName? = some (Bytes.ofString ".a.b.sql") ∧
    (Output.pathFor (Path.ofString "/dots/..xml")).fileName? = none := by
  have there : dottedView.isDirectory (Path.ofString "/dots") = true := by decide
  have every := result_beside_changelog dottedView (Path.ofString "/dots") _ there dotted_discovery
  obtain ⟨stem, -, -, plain, -, -, named, -⟩ := every (Path.ofString "/dots/.a.b.xml") (by simp)
  obtain ⟨dots, -, -, lone, -, -, -, unnamed⟩ := every (Path.ofString "/dots/..xml") (by simp)
  have cut : (Path.ofString "/dots/.a.b.xml").stem? = some (Bytes.ofString ".a.b") := by decide
  have cut' : (Path.ofString "/dots/..xml").stem? = some [Path.dot] := by decide
  rw [cut] at plain
  rw [cut'] at lone
  cases plain
  cases lone
  exact ⟨there, dotted_discovery, named (by decide), (unnamed rfl).1⟩

/-- So a result is not always told beside its changelog, by the name it should have. -/
theorem result_not_always_beside :
    ¬ ∀ (view : View) (root : Path) (found : List Path), view.isDirectory root = true →
      (changelogs view root).1 = .ok found → ∀ path ∈ found, ∀ stem, path.stem? = some stem →
        (Output.pathFor path).parent? = some (Output.workingDirectory path) ∧
          (Output.pathFor path).fileName? = some (stem ++ Bytes.ofString ".sql") := by
  intro beside
  obtain ⟨-, named⟩ := beside dottedView (Path.ofString "/dots") _ (by decide) dotted_discovery
    (Path.ofString "/dots/..xml") (by simp) [Path.dot] (by decide)
  revert named
  decide

end ChangelogSql.OutputPaths
