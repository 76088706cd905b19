import ChangelogSql.Proofs.ByteMachines
import ChangelogSql.Proofs.CoordinateMatch
import ChangelogSql.Proofs.RunAccounting
import ChangelogSql.Proofs.StoreVisits

/-! What a listing can do to the names of jars. A version that is read from a listing is
made of digits and dots, so the file of its jar is an entry of the directory for jars,
whatever the listing says and however the directory is written, and a store asks for
nothing else. The address of a jar has one slash in front of the file, whatever slashes
the base ends in, and from path and address alike the version can be told. -/
namespace ChangelogSql.JarNames
open Files Text ByteMachines CoordinateMatch LossyText PathComponents RunAccounting StoreVisits
open Version

variable {σ : Type} {version listing text : String} {c : Char} {b : UInt8}

/-- The name of the file of a jar. -/
def fileNameOf (version : String) : String :=
  "liquify-" ++ version ++ ".jar"

/-- As many slashes as one likes. -/
def slashes (count : Nat) : String :=
  String.ofList (List.replicate count '/')

theorem version_plain (found : inListing? listing = some version) :
    ∀ c ∈ version.toList, isVersionChar c = true := by
  obtain ⟨-, -, -, -, plain, -⟩ := inListing?_eq_some_iff.mp found
  exact plain

/-- Of the characters that a path takes for something else, a version has none. -/
theorem not_mem_fileName (found : inListing? listing = some version)
    (foreign : isVersionChar c = false) (apart : c ∉ "liquify-.jar".toList) :
    c ∉ (fileNameOf version).toList := by
  have free : c ∉ version.toList := not_mem_run (version_plain found) foreign
  have cut : "liquify-.jar".toList = "liquify-".toList ++ ".jar".toList := rfl
  rw [cut, List.mem_append, not_or] at apart
  simp only [fileNameOf, String.toList_append, List.mem_append, not_or]
  exact ⟨⟨apart.1, free⟩, apart.2⟩

theorem not_mem_bytes (plain : b < 0x80) (absent : asciiChar b ∉ text.toList) :
    b ∉ Bytes.ofString text :=
  mt (mem_encode_iff plain).mp absent

theorem fileName_bytes (version : String) :
    ∃ rest, Bytes.ofString (fileNameOf version) = 0x6C :: 0x69 :: rest := by
  refine ⟨Bytes.ofString ("quify-" ++ version ++ ".jar"), ?_⟩
  rw [fileNameOf, ofString_append, ofString_append, ofString_append, ofString_append]
  rfl

/-- The file of a jar can be called so in any directory. -/
theorem fileName_isName (found : inListing? listing = some version) :
    isName (Bytes.ofString (fileNameOf version)) = true := by
  obtain ⟨rest, written⟩ := fileName_bytes version
  have separatorFree : separator ∉ Bytes.ofString (fileNameOf version) :=
    not_mem_bytes (by decide) (not_mem_fileName found (by decide) (by decide))
  have nulFree : 0 ∉ Bytes.ofString (fileNameOf version) :=
    not_mem_bytes (by decide) (not_mem_fileName found (by decide) (by decide))
  simp only [isName, List.contains_eq_mem, separatorFree, nulFree]
  simp [written]

theorem fileName_ne (found : inListing? listing = some version)
    (reserved : isName (Bytes.ofString text) = false) : fileNameOf version ≠ text := by
  rintro rfl
  rw [fileName_isName found] at reserved
  cases reserved

/-- A name by itself is a path with one component. -/
theorem components_of_name {name : Bytes} (proper : isName name = true) :
    (⟨name⟩ : Path).components = [.normal name] := by
  have alone : (⟨[]⟩ : Path).join ⟨name⟩ = ⟨name⟩ := by simp [Path.join]
  rw [← alone, components_join _ _ proper]
  rfl

theorem trimmed_toList (text : String) : (Jar.withoutTrailingSlashes text).toList =
    (text.toList.reverse.dropWhile (· = '/')).reverse :=
  String.toList_ofList

/-- A base is what is left of it when slashes are taken from its end, and those slashes. -/
theorem trimmed_append (text : String) :
    ∃ count, text = Jar.withoutTrailingSlashes text ++ slashes count := by
  refine ⟨(text.toList.reverse.takeWhile (· = '/')).length, ?_⟩
  have only : text.toList.reverse.takeWhile (· = '/') =
      List.replicate (text.toList.reverse.takeWhile (· = '/')).length '/' :=
    List.eq_replicate_of_mem fun c member => by simpa using List.mem_takeWhile_imp member
  have halves := congrArg List.reverse
    (List.takeWhile_append_dropWhile (p := (· = '/')) (l := text.toList.reverse))
  rw [List.reverse_append, List.reverse_reverse] at halves
  refine String.toList_inj.mp ?_
  rw [String.toList_append, trimmed_toList, slashes, String.toList_ofList, ← List.reverse_replicate,
    ← only, halves]

theorem trimmed_ends (text : String) :
    (Jar.withoutTrailingSlashes text).toList.getLast? ≠ some '/' := by
  rw [trimmed_toList, List.getLast?_reverse]
  intro slash
  have head := List.head?_dropWhile_not (· = '/') text.toList.reverse
  rw [slash] at head
  simp at head

/-- Slashes at the end of a base make no difference. -/
theorem trimmed_slashes (text : String) (count : Nat) :
    Jar.withoutTrailingSlashes (text ++ slashes count) = Jar.withoutTrailingSlashes text := by
  refine String.toList_inj.mp ?_
  rw [trimmed_toList, trimmed_toList, String.toList_append, slashes, String.toList_ofList,
    List.reverse_append, List.reverse_replicate,
    List.dropWhile_append_of_pos (by simp)]

/-- The path of a jar has the components of the directory, and one more. -/
theorem path_components (found : inListing? listing = some version) (directory : Path)
    (base : String) : (Jar.forVersion version directory base).path.components =
      directory.components ++ [.normal (Bytes.ofString (fileNameOf version))] :=
  components_join directory _ (fileName_isName found)

/-- What is in a directory has it for its parent, if for another spelling of it. -/
theorem parent_of_components {path directory : Path} {name : Bytes}
    (inside : path.components = directory.components ++ [.normal name]) :
    ∃ parent, path.parent? = some parent ∧ parent.sameAs directory = true := by
  cases above : path.parent? with
  | none =>
    rcases parent_eq_none_iff.mp above with empty | top
    · simp [inside] at empty
    · have ending := congrArg List.getLast? (inside.symm.trans top)
      simp at ending
  | some parent =>
    refine ⟨parent, rfl, ?_⟩
    rw [Path.sameAs, decide_eq_true_iff, parent_components above, inside, List.dropLast_concat]

/-- A version that was read from a listing names a file that is an entry of the directory for
jars. Its path ends in the name of that file, which has no separator and is neither `.` nor
`..`; the parent of the path is the directory. The store looks there, and asks for a download
to there or for nothing. In the address one slash stands in front of the file, however many
the base ends in. Path, spelling of the path and address each tell the version. -/
theorem jar_named_by_version (listing listing' version version' : String) (directory : Path)
    (base : String) (found : inListing? listing = some version)
    (found' : inListing? listing' = some version') :
    let jar := Jar.forVersion version directory base
    let jar' := Jar.forVersion version' directory base
    ('/' ∉ jar.fileName.toList ∧ '\x00' ∉ jar.fileName.toList ∧
      jar.fileName ≠ "." ∧ jar.fileName ≠ ".." ∧
      (Path.ofString jar.fileName).components = [.normal (Bytes.ofString jar.fileName)]) ∧
    ((∃ parent, jar.path.parent? = some parent ∧ parent.sameAs directory = true) ∧
      jar.path.fileName? = some (Bytes.ofString jar.fileName) ∧
      ∀ (visit : Visit σ) (cwd : Location) (stock : Stock), visit.version = version →
        stock.store.directory = directory → stock.store.base = base →
        visit.asked cwd stock =
          if stock.holds cwd jar.path then [] else [.download jar.url jar.path]) ∧
    ((∃ front count, base = front ++ slashes count ∧ front.toList.getLast? ≠ some '/' ∧
        jar.url = front ++ "/" ++ jar.fileName) ∧
      ∀ count, (Jar.forVersion version directory (base ++ slashes count)).url = jar.url) ∧
    (jar.path = jar'.path ↔ version = version') ∧
    (jar.path.sameAs jar'.path = true ↔ version = version') ∧
    (jar.url = jar'.url ↔ version = version') := by
  intro jar jar'
  have inside := path_components found directory base
  have inside' := path_components found' directory base
  have proper := fileName_isName found
  refine ⟨⟨not_mem_fileName found (by decide) (by decide),
    not_mem_fileName found (by decide) (by decide),
    fileName_ne found (by decide), fileName_ne found (by decide), components_of_name proper⟩,
    ⟨parent_of_components inside, fileName_join directory proper, ?_⟩,
    ⟨?_, fun count => ?_⟩, forVersion_path_inj, ?_,
    (forVersion_url_injective directory base).eq_iff⟩
  · rintro visit cwd stock rfl rfl rfl
    split
    next there => exact (visit_present there).1
    next missing => exact (visit_missing ((Bool.not_eq_true _).mp missing)).1
  · obtain ⟨count, written⟩ := trimmed_append base
    exact ⟨_, count, written, trimmed_ends base, rfl⟩
  · simp only [jar, Jar.forVersion, trimmed_slashes]
  · constructor
    · intro same
      have equal : jar.path.components = jar'.path.components := by simpa [Path.sameAs] using same
      rw [inside, inside', List.append_cancel_left_eq, List.singleton_inj,
        Path.Component.normal.injEq] at equal
      have written : jar.path = jar'.path := congrArg (fun name => directory.join ⟨name⟩) equal
      exact forVersion_path_inj.mp written
    · rintro rfl
      simp [Path.sameAs, jar, jar']

/-- Not even a version of dots alone leaves the directory for jars, and however the directory
and the base are written there is one slash where there should be one. -/
theorem dotted_version_kept :
    let dotted := Jar.forVersion ".." (Path.ofString "jars/.") "http://host//"
    let plain := Jar.forVersion "4.2.0" (Path.ofString "jars/.") "http://host//"
    inListing? "at org.liquibase:liquibase-core:jar:..:compile" = some ".." ∧
    inListing? "at org.liquibase:liquibase-core:jar:4.2.0" = some "4.2.0" ∧
    (∃ parent, dotted.path.parent? = some parent ∧ parent.sameAs (Path.ofString "jars/.") = true) ∧
    dotted.url = "http://host/liquify-...jar" ∧ dotted.path.sameAs plain.path = false := by
  have found : inListing? "at org.liquibase:liquibase-core:jar:..:compile" = some ".." := by decide
  have found' : inListing? "at org.liquibase:liquibase-core:jar:4.2.0" = some "4.2.0" := by decide
  intro dotted plain
  obtain ⟨-, ⟨parent, -⟩, -, -, apart, -⟩ :=
    @jar_named_by_version Unit _ _ _ _ (Path.ofString "jars/.") "http://host//" found found'
  refine ⟨found, found', parent, by decide, ?_⟩
  rw [← Bool.not_eq_true, apart]
  decide

end ChangelogSql.JarNames
