import ChangelogSql.Output
import ChangelogSql.Proofs.ManifestSearch
import ChangelogSql.Proofs.PathDescent
import Mathlib.Data.List.Infix

/-! The absolute path of a place is spelled by its names alone. Joining a name,
taking the parent and comparing two such paths is the same as doing it with the
names, so whatever is done with them stays a path of this kind. -/
namespace ChangelogSql.PlacePaths
open ChangelogSql.Path Files PathComponents PathDescent ManifestSearch

variable {place root front : Location} {name : Name}

/-- The names are what stands behind the top. -/
theorem path_parts (filled : place ≠ []) : place.path.parts = ⟨.top, place.map Name.bytes⟩ := by
  have free : ∀ piece ∈ place.map Name.bytes, separator ∉ piece := by
    rintro _ member
    obtain ⟨name, -, rfl⟩ := List.mem_map.mp member
    exact (name_speaks name.proper).2.1
  have cut : Text.splitAt separator place.path.bytes = [] :: place.map Name.bytes := by
    rw [Location.path, Text.splitAt, if_pos rfl, splitAt_joinWith separator _ (by simpa using filled) free]
  obtain ⟨name, rest, rfl⟩ := List.exists_cons_of_ne_nil filled
  rw [parts, cut]
  rfl

theorem path_components (place : Location) :
    place.path.components = .top :: place.map fun name => .normal name.bytes := by
  cases place with
  | nil => rfl
  | cons name rest =>
    rw [components, path_parts (by simp), Parts.components, names_spelled]
    rfl

theorem path_isAbsolute (place : Location) : place.path.isAbsolute = true := rfl

/-- A canonical path is the path of a place. -/
theorem canonical_place {view : View} {path canonical : Path}
    (found : view.canonical path = .ok canonical) : ∃ place : Location, canonical = place.path := by
  simp only [View.canonical, Bind.bind, Except.bind] at found
  split at found
  · cases found
  next place _ =>
    split at found <;> cases found
    exact ⟨place.location, rfl⟩

/-- The path of a place below the top ends in its last name. -/
theorem path_ends (front : Location) (name : Name) :
    ∃ before, (Location.path (front ++ [name])).bytes = before ++ name.bytes := by
  cases front with
  | nil => exact ⟨[separator], rfl⟩
  | cons first front =>
    have filled : (first :: front).map Name.bytes ≠ [] := by simp
    refine ⟨(Location.path (first :: front)).bytes ++ [separator], ?_⟩
    rw [Location.path, List.map_append, List.map_singleton, joinWith_concat separator _ filled]
    simp [Location.path]

/-- Joining a name to the path of a place gives the path of the place it names there. -/
theorem path_join (place : Location) (name : Name) :
    place.path.join ⟨name.bytes⟩ = Location.path (place ++ [name]) := by
  have relative : isAbsolute ⟨name.bytes⟩ = false := by
    obtain ⟨-, free, speaks, -⟩ := name_speaks name.proper
    exact relative_of_speaking speaks free
  cases place using List.reverseRecOn with
  | nil => simp [join, relative, Location.path, Text.joinWith]
  | append_singleton front last =>
    have unclosed : (Location.path (front ++ [last])).bytes.getLast? ≠ some separator := by
      obtain ⟨filled, free, -, -⟩ := name_speaks last.proper
      obtain ⟨before, written⟩ := path_ends front last
      rw [written, List.getLast?_append_of_ne_nil _ filled]
      exact fun slash => free (List.mem_of_getLast? slash)
    have filled : (front ++ [last]).map Name.bytes ≠ [] := by simp
    have written : (Location.path (front ++ [last] ++ [name])).bytes =
        (Location.path (front ++ [last])).bytes ++ separator :: name.bytes := by
      have names : (front ++ [last] ++ [name]).map Name.bytes =
          (front ++ [last]).map Name.bytes ++ [name.bytes] := List.map_append
      simp only [Location.path, names, joinWith_concat separator _ filled, List.cons_append]
    have some : (Location.path (front ++ [last])).bytes ≠ [] := List.cons_ne_nil _ _
    rw [join, relative, if_neg Bool.false_ne_true, if_neg (by simp [some, unclosed]), ← written]

theorem path_descend (place names : Location) :
    descend place.path names = Location.path (place ++ names) := by
  induction names generalizing place with
  | nil => simp
  | cons name names ih => rw [descend_cons, path_join, ih, List.append_assoc, List.singleton_append]

/-- The parent of a place's path is the path of the directory it is in. -/
theorem path_parent (front : Location) (name : Name) :
    (Location.path (front ++ [name])).parent? = some front.path := by
  have whole : trimRight ((front ++ [name]).map Name.bytes) = front.map Name.bytes ++ [name.bytes] := by
    rw [(trim_names _).2, List.map_append]
    rfl
  have rest : (front.map Name.bytes ++ [name.bytes]).dropLast = front.map Name.bytes :=
    List.dropLast_concat
  rw [parent?, path_parts (by simp)]
  simp only [whole]
  split
  next empty => simp at empty
  next segment segments cut => rw [← cut, rest, (trim_names _).2]; rfl

theorem path_parent_top : (Location.path []).parent? = none := by
  rw [parent_eq_none_iff, path_components]
  exact .inr rfl

theorem ancestors_top : (Location.path []).ancestors = [Location.path []] := by
  rw [ancestors_eq, path_parent_top]
  rfl

theorem ancestors_concat (front : Location) (name : Name) :
    (Location.path (front ++ [name])).ancestors = Location.path (front ++ [name]) :: front.path.ancestors := by
  rw [ancestors_eq, path_parent]
  rfl

/-- The path of one place starts with that of another if the names do. -/
theorem path_startsWith_iff : place.path.startsWith root.path = true ↔ root <+: place := by
  rw [startsWith_iff, path_components, path_components, List.prefix_cons_inj, List.prefix_map_iff]
  constructor
  · rintro ⟨front, starts, same⟩
    exact component_injective.list_map same ▸ starts
  · exact fun starts => ⟨root, starts, rfl⟩

/-- Above a place one searches its directory and then above that, until one would
leave the root. -/
theorem directories_concat (root names : Location) (name : Name) :
    Manifest.directories (Location.path (root ++ (names ++ [name]))) root.path =
      Location.path (root ++ (names ++ [name])) ::
        Manifest.directories (Location.path (root ++ names)) root.path := by
  have within : (Location.path (root ++ (names ++ [name]))).startsWith root.path = true :=
    path_startsWith_iff.mpr (List.prefix_append _ _)
  rw [← List.append_assoc] at within ⊢
  rw [Manifest.directories, ancestors_concat, List.takeWhile_cons, if_pos within]
  rfl

/-- Nothing is searched from a place outside of the root. -/
theorem directories_outside (outside : ¬ root <+: place) :
    Manifest.directories place.path root.path = [] := by
  rw [directories_eq_nil_iff, ← startsWith_iff]
  exact mt path_startsWith_iff.mp outside

theorem not_prefix_of_shorter (short : place.length < root.length) : ¬ root <+: place :=
  fun starts => absurd starts.length_le (by omega)

theorem directories_root (root : Location) :
    Manifest.directories root.path root.path = [root.path] := by
  have within : root.path.startsWith root.path = true := path_startsWith_iff.mpr (List.prefix_refl _)
  cases root using List.reverseRecOn with
  | nil => rw [Manifest.directories, ancestors_top, List.takeWhile_cons, if_pos within]; rfl
  | append_singleton front name =>
    rw [Manifest.directories, ancestors_concat, List.takeWhile_cons, if_pos within]
    congr 1
    exact directories_outside (not_prefix_of_shorter (by simp))

/-- The directories that are searched lie one above the other, from where the search
starts up to the root. -/
theorem directories_eq (root names : Location) :
    Manifest.directories (descend root.path names) root.path =
      names.inits.reverse.map (descend root.path) := by
  induction names using List.reverseRecOn with
  | nil => simpa using directories_root root
  | append_singleton names name ih =>
    rw [path_descend, directories_concat, ← path_descend root names, ih, List.inits_append]
    simp [path_descend, path_join]

/-- The directory of something below a root is where it is converted, and where the
search for its manifest begins. -/
theorem workingDirectory_descend (place : Location) {names : Location} (filled : names ≠ []) :
    Output.workingDirectory (descend place.path names) = descend place.path names.dropLast ∧
      (descend place.path names).parent?.getD place.path = descend place.path names.dropLast := by
  cases names using List.reverseRecOn with
  | nil => exact absurd rfl filled
  | append_singleton front last =>
    rw [List.dropLast_concat, path_descend, path_descend, ← List.append_assoc, Output.workingDirectory,
      path_parent]
    exact ⟨if_neg (List.cons_ne_nil _ _), rfl⟩

end ChangelogSql.PlacePaths
