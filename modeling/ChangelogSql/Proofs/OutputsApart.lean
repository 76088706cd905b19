import ChangelogSql.Proofs.OutputPaths

/-! What the results of one run are told to be keeps apart: from each other, and from all that
the run reads or fetches. Two changelogs differ in their directories or in their stems, and
both can be told from their results. What a run starts from ends in `.xml` or in `.jar`, and no
result does. -/
namespace ChangelogSql.OutputsApart
open Files Discovery PathComponents PathDescent PlacePaths
open DiscoveryExactness RunAccounting OutputPaths

/-- What a path denotes is called something that ends in some bytes. -/
def EndsIn (path : Path) (ending : Bytes) : Prop :=
  ∃ before, path.components.getLast? = some (.normal (before ++ ending))

variable {view : View} {root path other directory : Path} {found : List Path}
variable {stem stem' name before ending : Bytes} {front front' : Location}

theorem endsIn_join (directory : Path) (proper : isName (before ++ ending) = true) :
    EndsIn (directory.join ⟨before ++ ending⟩) ending :=
  ⟨before, by rw [components_join directory _ proper, List.getLast?_concat]⟩

/-- What is longer than dots is a name. -/
theorem component?_of_long (long : 2 < name.length) :
    Path.component? name = some (.normal name) := by
  have notSilent : Path.silent name = false := by
    rw [Path.silent, Bool.or_eq_false_iff, decide_eq_false_iff_not, decide_eq_false_iff_not]
    constructor <;> rintro rfl <;> simp at long
  have notUp : name ≠ [0x2E, 0x2E] := by
    rintro rfl
    simp at long
  rw [Path.component?, notSilent, if_neg Bool.false_ne_true, if_neg notUp]

/-- If a text ends in something longer than dots, so does what it denotes. -/
theorem endsIn_of_bytes (written : path.bytes = before ++ ending) (free : separator ∉ ending)
    (long : 2 < ending.length) : EndsIn path ending := by
  obtain ⟨pieces, last, cut⟩ : ∃ pieces last, Text.splitAt separator before = pieces ++ [last] :=
    ⟨_, _, (List.dropLast_concat_getLast (Text.splitAt_ne_nil separator before)).symm⟩
  have whole : Text.splitAt separator path.bytes = pieces ++ [last ++ ending] := by
    rw [written, splitAt_continued separator cut (splitAt_of_not_mem separator ending free)]
  have longer : 2 < (last ++ ending).length := by
    rw [List.length_append]
    omega
  have spelled := component?_of_long longer
  refine ⟨last, ?_⟩
  rw [components_eq, whole, List.filterMap_append, List.filterMap_cons_some spelled,
    List.filterMap_nil, ← List.append_assoc, List.getLast?_concat]

theorem toldComponent_injective : Function.Injective toldComponent := by
  intro stem stem' same
  unfold toldComponent at same
  split at same <;> split at same
  next lone lone' => rw [lone, lone']
  next => cases same
  next => cases same
  next => exact List.append_cancel_right (Path.Component.normal.inj same)

/-- Nothing that is told ends as another extension does. -/
theorem toldComponent_ne (four : ending.length = 4) (unlike : ending ≠ Bytes.ofString ".sql") :
    toldComponent stem ≠ .normal (before ++ ending) := by
  unfold toldComponent
  split
  · exact nofun
  · intro same
    have lengths : (Bytes.ofString ".sql").length = ending.length := by rw [four]; decide
    exact unlike (List.append_inj' (Path.Component.normal.inj same) lengths).2.symm

theorem pathFor_apart (directory : Path) (filled : stem ≠ [])
    (proper : isName (sourceName stem) = true) (ends : EndsIn other ending)
    (four : ending.length = 4) (unlike : ending ≠ Bytes.ofString ".sql") :
    (Output.pathFor (directory.join ⟨sourceName stem⟩)).sameAs other = false := by
  obtain ⟨before, last⟩ := ends
  rw [Path.sameAs, decide_eq_false_iff_not, pathFor_components directory filled proper]
  intro same
  rw [← same, List.getLast?_concat, Option.some.injEq] at last
  exact toldComponent_ne four unlike last

/-- Below one root, the result tells the directory and the stem. -/
theorem pathFor_inj (filled : stem ≠ []) (proper : isName (sourceName stem) = true)
    (filled' : stem' ≠ []) (proper' : isName (sourceName stem') = true)
    (same : (Output.pathFor ((descend root front).join ⟨sourceName stem⟩)).sameAs
      (Output.pathFor ((descend root front').join ⟨sourceName stem'⟩)) = true) :
    front = front' ∧ stem = stem' := by
  rw [Path.sameAs, decide_eq_true_iff, pathFor_components _ filled proper,
    pathFor_components _ filled' proper'] at same
  obtain ⟨directories, last⟩ := List.append_inj' same rfl
  rw [descend_components, descend_components] at directories
  exact ⟨component_injective.list_map (List.append_cancel_left directories),
    toldComponent_injective (List.singleton_inj.mp last)⟩

theorem jar_endsIn (version : String) (directory : Path) (base : String) :
    EndsIn (Jar.forVersion version directory base).path (Bytes.ofString ".jar") := by
  have written := forVersion_path_bytes version directory base
  rw [ofString_append, ← List.append_assoc] at written
  exact endsIn_of_bytes written (by decide) (by decide)

theorem manifest_endsIn (directory : Path) :
    EndsIn (directory.join Manifest.fileName) (Bytes.ofString ".xml") :=
  @endsIn_join (Bytes.ofString "pom") _ directory (by decide)

/-- Below a directory, the results of different changelogs are told to be at different paths,
and no two results of one run are the same. None of them is a changelog that was
found, a manifest that any search looks for, or the jar of any version. -/
theorem outputs_apart (view : View) (root : Path) (found : List Path)
    (there : view.isDirectory root = true) (collects : (changelogs view root).1 = .ok found) :
    (∀ path ∈ found, ∀ path' ∈ found, path ≠ path' →
      (Output.pathFor path).sameAs (Output.pathFor path') = false) ∧
    ((found.map Output.pathFor).Pairwise fun output output' => output.sameAs output' = false) ∧
    ∀ path ∈ found,
      (∀ other ∈ found, (Output.pathFor path).sameAs other = false) ∧
      (∀ start top, ∀ manifest ∈ (Manifest.directories start top).map (·.join Manifest.fileName),
        (Output.pathFor path).sameAs manifest = false) ∧
      ∀ version directory base,
        (Output.pathFor path).sameAs (Jar.forVersion version directory base).path = false := by
  have named := changelog_named there collects
  have apart : ∀ path ∈ found, ∀ path' ∈ found, path ≠ path' →
      (Output.pathFor path).sameAs (Output.pathFor path') = false := by
    intro path member path' member' different
    obtain ⟨front, stem, filled, proper, rfl⟩ := named path member
    obtain ⟨front', stem', filled', proper', rfl⟩ := named path' member'
    refine (Bool.not_eq_true _).mp fun same => different ?_
    obtain ⟨rfl, rfl⟩ := pathFor_inj filled proper filled' proper' same
    rfl
  refine ⟨apart, ?_, fun path member => ?_⟩
  · rw [List.pairwise_map]
    exact (changelogs_found collects).1.imp_of_mem fun member member' different =>
      apart _ member _ member' different
  obtain ⟨front, stem, filled, proper, rfl⟩ := named path member
  refine ⟨fun other member' => ?_, fun start top manifest searched => ?_,
    fun version directory base => ?_⟩
  · obtain ⟨front', stem', -, proper', rfl⟩ := named other member'
    exact pathFor_apart _ filled proper (endsIn_join _ proper') (by decide) (by decide)
  · obtain ⟨directory, -, rfl⟩ := List.mem_map.mp searched
    exact pathFor_apart _ filled proper (manifest_endsIn directory) (by decide) (by decide)
  · exact pathFor_apart _ filled proper (jar_endsIn version directory base) (by decide) (by decide)

/-- The results for the three changelogs of the crowded tree are three, and none of them is the
changelog that stands beside it. -/
theorem crowded_outputs_apart :
    crowdedView.isDirectory (Path.ofString "/r") = true ∧
    (changelogs crowdedView (Path.ofString "/r")).1 =
      .ok [Path.ofString "/r/a/z.xml", Path.ofString "/r/a.xml", Path.ofString "/r/l.xml"] ∧
    (Output.pathFor (Path.ofString "/r/a/z.xml")).sameAs
      (Output.pathFor (Path.ofString "/r/l.xml")) = false ∧
    (Output.pathFor (Path.ofString "/r/a.xml")).sameAs (Path.ofString "/r/l.xml") = false ∧
    (Output.pathFor (Path.ofString "/r/a.xml")).sameAs (Path.ofString "/r/pom.xml") = false ∧
    (Output.pathFor (Path.ofString "/r/a.xml")).sameAs
      (Jar.forVersion "4.2.0" (Path.ofString "/r") Jar.releases).path = false := by
  have there : crowdedView.isDirectory (Path.ofString "/r") = true := by decide
  have collects : (changelogs crowdedView (Path.ofString "/r")).1 =
      .ok [Path.ofString "/r/a/z.xml", Path.ofString "/r/a.xml", Path.ofString "/r/l.xml"] := by
    simp only [changelogs, scan, crowded_visits]
    decide
  obtain ⟨apart, -, inputs⟩ := outputs_apart crowdedView (Path.ofString "/r") _ there collects
  obtain ⟨others, manifests, jars⟩ := inputs (Path.ofString "/r/a.xml") (by simp)
  exact ⟨there, collects, apart _ (by simp) _ (by simp) (by decide), others _ (by simp),
    manifests (Path.ofString "/r") (Path.ofString "/r") _ (by decide),
    jars "4.2.0" (Path.ofString "/r") Jar.releases⟩

end ChangelogSql.OutputsApart
