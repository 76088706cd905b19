import ChangelogSql.Proofs.ResolutionMemo

/-! A resolver lives through many attempts. Between two of them the disk and the
collaborators may become any others, so nothing is assumed of what an attempt
meets; the memo is all that goes from one to the next. -/
namespace ChangelogSql.ResolverAttempts
open Files Conversion CallAccounts ResolutionMemo PathComponents

variable {σ : Type}

/-- One attempt: a changelog, with the collaborators, the disk and the memory it
happens to meet. -/
structure Attempt (σ : Type) where
  tools : Toolchain σ
  changelog : Path
  view : View
  memory : σ

namespace Attempt

/-- How an attempt goes with a memo. -/
def result (attempt : Attempt σ) (root : Path) (memo : Memo) :
    Except Failure (Resolution × Memo) × World σ :=
  (resolve attempt.tools root attempt.changelog memo).perform
    ⟨attempt.view.disk, attempt.view.cwd, attempt.memory, []⟩

/-- What an attempt comes to. -/
def outcome (attempt : Attempt σ) (root : Path) (memo : Memo) : Except Failure (Resolution × Memo) :=
  (attempt.result root memo).1

/-- What is asked in an attempt. -/
def asked (attempt : Attempt σ) (root : Path) (memo : Memo) : List Request :=
  Transcript.requests (attempt.result root memo).2.events

/-- The manifest an attempt is about. -/
def manifest? (attempt : Attempt σ) (root : Path) : Option Path :=
  Manifest.nearest? attempt.view (attempt.changelog.parent?.getD root) root

/-- What the lister would say to an attempt about a project. -/
def listing (attempt : Attempt σ) (project : Path) : Except Failure String :=
  (attempt.tools.dependencies project attempt.view attempt.memory).answer

/-- The manifest of an attempt has this version in the listing the attempt meets. -/
def Lists (attempt : Attempt σ) (root : Path) (version : String) : Prop :=
  ∃ manifest project text, attempt.manifest? root = some manifest ∧
    manifest.parent? = some project ∧ attempt.listing project = .ok text ∧
    Version.inListing? text = some version

/-- An attempt finds a version for a manifest, in whatever way that is spelled. -/
def Succeeds (attempt : Attempt σ) (root : Path) (memo : Memo) (manifest : Path) : Prop :=
  ∃ found memo', attempt.outcome root memo = .ok (found, memo') ∧
    found.manifest.sameAs manifest = true

end Attempt

/-- The memo after some attempts, the first of which knew nothing. -/
def memoAfter (root : Path) (attempts : List (Attempt σ)) : Memo :=
  attempts.foldl (fun memo attempt => memo.after (attempt.outcome root memo)) Memo.empty

/-- What the attempts come to, one after the other. -/
def outcomes (root : Path) : Memo → List (Attempt σ) → List (Except Failure Resolution)
  | _, [] => []
  | memo, attempt :: rest =>
    (attempt.outcome root memo).map Prod.fst ::
      outcomes root (memo.after (attempt.outcome root memo)) rest

/-- A version that was not remembered. -/
def isFresh : Except Failure Resolution → Bool
  | .ok found => !found.cached
  | .error _ => false

/-- The first of some attempts that finds a version for a manifest. -/
def FirstSuccess (root : Path) (attempts : List (Attempt σ)) (manifest : Path)
    (first : Attempt σ) : Prop :=
  ∃ earlier later, attempts = earlier ++ first :: later ∧
    first.Succeeds root (memoAfter root earlier) manifest ∧
    ∀ before other after, earlier = before ++ other :: after →
      ¬ other.Succeeds root (memoAfter root before) manifest

variable {root manifest other : Path} {memo : Memo} {attempt : Attempt σ}
variable {attempts : List (Attempt σ)} {version : String}

/-- An attempt goes by the rules of resolution. -/
theorem attempt_resolves (root : Path) (memo : Memo) (attempt : Attempt σ) :
    ∃ calls found after,
      Resolving attempt.tools attempt.view.cwd root memo.find? attempt.changelog
        ⟨attempt.view.disk, attempt.memory⟩ calls found after ∧
      attempt.outcome root memo = found.map (fun found => (found, learned memo found)) ∧
      attempt.asked root memo = calls.map Call.request := by
  obtain ⟨calls, found, after, resolving⟩ := resolving_total attempt.tools attempt.view.cwd root
    memo.find? attempt.changelog ⟨attempt.view.disk, attempt.memory⟩
  obtain ⟨final, performed, account, -⟩ := resolve_performs resolving
    ⟨attempt.view.disk, attempt.view.cwd, attempt.memory, []⟩ rfl rfl
  refine ⟨calls, found, after, resolving, ?_, ?_⟩
  · rw [Attempt.outcome, Attempt.result, performed]
  · rw [Attempt.asked, Attempt.result, performed, account.asked]
    rfl

theorem memoAfter_concat (attempts : List (Attempt σ)) (last : Attempt σ) :
    memoAfter root (attempts ++ [last]) =
      (memoAfter root attempts).after (last.outcome root (memoAfter root attempts)) := by
  simp [memoAfter]

/-- A version that is known stays, whatever the next attempt comes to. -/
theorem known_persists (known : memo.find? manifest = some version) :
    (memo.after (attempt.outcome root memo)).find? manifest = some version := by
  obtain ⟨calls, found, after, resolving, outcome, -⟩ := attempt_resolves root memo attempt
  rw [outcome]
  cases resolving with
  | orphan => exact known
  | remembered => exact known
  | unlisted => exact known
  | unversioned => exact known
  | listed nearest new =>
    refine (find_insert new).trans ?_
    split
    · rename_i same
      rw [find_congr same, known] at new
      cases new
    · exact known

/-- An attempt that finds no version for a manifest changes nothing about it. -/
theorem unknown_persists (fails : ¬ attempt.Succeeds root memo manifest) :
    (memo.after (attempt.outcome root memo)).find? manifest = memo.find? manifest := by
  obtain ⟨calls, found, after, resolving, outcome, -⟩ := attempt_resolves root memo attempt
  cases resolving with
  | orphan => rw [outcome]; rfl
  | remembered => rw [outcome]; rfl
  | unlisted => rw [outcome]; rfl
  | unversioned => rw [outcome]; rfl
  | listed nearest new =>
    have different := fun same => fails ⟨_, _, outcome, same⟩
    rw [outcome]
    exact (find_insert new).trans (if_neg different)

/-- An attempt that finds a version for a manifest that was not known has it from
the listing it meets, and it is known from then on. -/
theorem success_remembered (new : memo.find? manifest = none)
    (succeeds : attempt.Succeeds root memo manifest) :
    ∃ version, attempt.Lists root version ∧
      (memo.after (attempt.outcome root memo)).find? manifest = some version := by
  obtain ⟨found, memo', came, same⟩ := succeeds
  obtain ⟨calls, outcome, after, resolving, shape, -⟩ := attempt_resolves root memo attempt
  rw [shape] at came ⊢
  cases resolving with
  | orphan => cases came
  | unlisted => cases came
  | unversioned => cases came
  | remembered nearest met =>
    cases came
    rw [find_congr same, new] at met
    cases met
  | listed nearest unknown directory asked read =>
    cases came
    exact ⟨_, ⟨_, _, _, nearest, directory, asked.1, read⟩, (find_insert unknown).trans (if_pos same)⟩

theorem memoAfter_persists (later : List (Attempt σ))
    (known : (memoAfter root attempts).find? manifest = some version) :
    (memoAfter root (attempts ++ later)).find? manifest = some version := by
  induction later using List.reverseRecOn with
  | nil => simpa using known
  | append_singleton front last ih =>
    rw [← List.append_assoc, memoAfter_concat]
    exact known_persists ih

/-- As long as no attempt finds a version for a manifest, none is known. -/
theorem memoAfter_unknown
    (fails : ∀ earlier attempt later, attempts = earlier ++ attempt :: later →
      ¬ attempt.Succeeds root (memoAfter root earlier) manifest) :
    (memoAfter root attempts).find? manifest = none := by
  induction attempts using List.reverseRecOn with
  | nil => rfl
  | append_singleton front last ih =>
    rw [memoAfter_concat, unknown_persists (fails front last [] rfl)]
    refine ih fun earlier attempt later split => ?_
    exact fails earlier attempt (later ++ [last]) (by simp [split])

/-- The first success reads the version from its listing, and the memo keeps it. -/
theorem firstSuccess_known (first : FirstSuccess root attempts manifest attempt) :
    ∃ version, attempt.Lists root version ∧
      (memoAfter root attempts).find? manifest = some version := by
  obtain ⟨earlier, later, rfl, succeeds, before⟩ := first
  obtain ⟨version, lists, known⟩ := success_remembered (memoAfter_unknown before) succeeds
  rw [← memoAfter_concat] at known
  refine ⟨version, lists, ?_⟩
  rw [show earlier ++ attempt :: later = earlier ++ [attempt] ++ later by simp]
  exact memoAfter_persists later known

/-- Once an attempt has found a version for a manifest, one is known. -/
theorem success_known (earlier later : List (Attempt σ))
    (succeeds : attempt.Succeeds root (memoAfter root earlier) manifest) :
    ∃ version, (memoAfter root (earlier ++ attempt :: later)).find? manifest = some version := by
  have met : ∃ version, (memoAfter root (earlier ++ [attempt])).find? manifest = some version := by
    rw [memoAfter_concat]
    cases unknown : (memoAfter root earlier).find? manifest with
    | some version => exact ⟨version, known_persists unknown⟩
    | none =>
      obtain ⟨version, -, known⟩ := success_remembered unknown succeeds
      exact ⟨version, known⟩
  obtain ⟨version, known⟩ := met
  have kept := memoAfter_persists later known
  rw [List.append_assoc, List.singleton_append] at kept
  exact ⟨version, kept⟩

/-- What is known of a manifest was found by a first attempt. -/
theorem firstSuccess_of_known (known : (memoAfter root attempts).find? manifest = some version) :
    ∃ first, FirstSuccess root attempts manifest first := by
  induction attempts using List.reverseRecOn generalizing version with
  | nil => cases known
  | append_singleton front last ih =>
    cases before : (memoAfter root front).find? manifest with
    | some version' =>
      obtain ⟨first, earlier, later, split, succeeds, fails⟩ := ih before
      exact ⟨first, earlier, later ++ [last], by simp [split], succeeds, fails⟩
    | none =>
      have succeeds : last.Succeeds root (memoAfter root front) manifest := by
        by_contra fails
        rw [memoAfter_concat, unknown_persists fails, before] at known
        cases known
      refine ⟨last, front, [], rfl, succeeds, ?_⟩
      rintro earlier attempt later split success
      obtain ⟨version, kept⟩ := success_known earlier later success
      rw [← split, before] at kept
      cases kept

theorem lists_unique (one : attempt.Lists root version) (other : attempt.Lists root version') :
    version = version' := by
  obtain ⟨manifest, project, text, near, directory, listed, read⟩ := one
  obtain ⟨manifest', project', text', near', directory', listed', read'⟩ := other
  rw [near] at near'
  cases near'
  rw [directory] at directory'
  cases directory'
  rw [listed] at listed'
  cases listed'
  exact Option.some.inj (read.symm.trans read')

/-- The memo has exactly the versions that the first successful attempts read. -/
theorem memoAfter_find_iff :
    (memoAfter root attempts).find? manifest = some version ↔
      ∃ first, FirstSuccess root attempts manifest first ∧ first.Lists root version := by
  constructor
  · intro known
    obtain ⟨first, success⟩ := firstSuccess_of_known known
    obtain ⟨version', lists, known'⟩ := firstSuccess_known success
    rw [known] at known'
    cases known'
    exact ⟨first, success, lists⟩
  · rintro ⟨first, success, lists⟩
    obtain ⟨version', lists', known⟩ := firstSuccess_known success
    rw [known, lists_unique lists lists']

/-- Every version that was not remembered adds one manifest to the memo. -/
theorem size_after (root : Path) (memo : Memo) (attempts : List (Attempt σ)) :
    (attempts.foldl (fun memo attempt => memo.after (attempt.outcome root memo)) memo).size =
      memo.size + (outcomes root memo attempts).countP isFresh := by
  induction attempts generalizing memo with
  | nil => rfl
  | cons attempt rest ih =>
    obtain ⟨calls, found, after, resolving, outcome, -⟩ := attempt_resolves root memo attempt
    rw [List.foldl_cons, ih, outcomes, List.countP_cons, outcome]
    cases resolving with
    | orphan => rfl
    | remembered => rfl
    | unlisted => rfl
    | unversioned => rfl
    | listed =>
      simp [Except.map, Memo.after, learned, isFresh, Memo.insert, Memo.size]
      omega

/-- The lister of an attempt goes by the directory alone. -/
def Attempt.Uses (attempt : Attempt σ) (lister : Path → Except Failure String) : Prop :=
  ∀ project view memory, (attempt.tools.dependencies project view memory).answer = lister project

/-- The version of a manifest is all the same whether it is remembered or listed
again, as long as the lister goes by the directory alone. -/
theorem remembered_as_listed (lister : Path → Except Failure String)
    (spelled : ∀ project project' : Path, project.sameAs project' = true →
      lister project = lister project')
    (uses : ∀ attempt ∈ attempts, attempt.Uses lister)
    (known : (memoAfter root attempts).find? manifest = some version)
    (directory : manifest.parent? = some project) :
    ∃ text, lister project = .ok text ∧ Version.inListing? text = some version := by
  obtain ⟨first, success, manifest', project', text, near, directory', listed, read⟩ :=
    memoAfter_find_iff.mp known
  obtain ⟨earlier, later, rfl, ⟨found, memo', outcome, same⟩, -⟩ := success
  have listed' : lister project' = .ok text := by
    rw [← uses first (by simp) project' first.view first.memory]
    exact listed
  have nearest : found.manifest = manifest' := by
    obtain ⟨calls, came, after, resolving, shape, -⟩ :=
      attempt_resolves root (memoAfter root earlier) first
    rw [shape] at outcome
    cases came with
    | error => cases outcome
    | ok came =>
      cases outcome
      exact Option.some.inj ((resolving_found resolving).1.symm.trans near)
  subst nearest
  obtain ⟨project'', above, same'⟩ := parent_sameAs same directory'
  rw [directory] at above
  cases above
  exact ⟨text, (spelled _ _ same').symm.trans listed', read⟩

/-- What an attempt reports, apart from whether the version was remembered. -/
def reported (outcome : Except Failure (Resolution × Memo)) : Except Failure (Path × String) :=
  outcome.map fun (found, _) => (found.manifest, found.version)

/-- What is reported of a manifest once it has been listed. -/
def fromListing (manifest : Path) (listing : Except Failure String) :
    Except Failure (Path × String) :=
  listing.bind fun text =>
    match Version.inListing? text with
    | some version => .ok (manifest, version)
    | none => .error (.versionNotFound manifest)

/-- A known manifest is answered from the memo, and nothing is asked. -/
theorem known_answered (near : attempt.manifest? root = some manifest)
    (known : memo.find? manifest = some version) :
    attempt.outcome root memo = .ok (⟨manifest, version, true⟩, memo) ∧
      attempt.asked root memo = [] := by
  have resolving : Resolving attempt.tools attempt.view.cwd root memo.find? attempt.changelog
      ⟨attempt.view.disk, attempt.memory⟩ [] (.ok ⟨manifest, version, true⟩)
      ⟨attempt.view.disk, attempt.memory⟩ := .remembered near known
  obtain ⟨final, performed, account, -⟩ := resolve_performs resolving
    ⟨attempt.view.disk, attempt.view.cwd, attempt.memory, []⟩ rfl rfl
  rw [Attempt.outcome, Attempt.asked, Attempt.result, performed]
  exact ⟨rfl, account.asked⟩

/-- A manifest that is not known is listed once, in its directory. -/
theorem unknown_listed (near : attempt.manifest? root = some manifest)
    (new : memo.find? manifest = none) :
    ∃ project, manifest.parent? = some project ∧
      attempt.asked root memo = [.dependencies project] ∧
      ∀ found memo', attempt.outcome root memo = .ok (found, memo') →
        found.manifest = manifest ∧ found.cached = false := by
  obtain ⟨calls, came, after, resolving, outcome, asked⟩ := attempt_resolves root memo attempt
  rw [asked, outcome]
  have same {manifest' : Path} (nearest : manifestAt attempt.view.cwd root attempt.changelog
      (⟨attempt.view.disk, attempt.memory⟩ : Moment σ) = some manifest') : manifest' = manifest :=
    Option.some.inj (nearest.symm.trans near)
  cases resolving with
  | orphan nowhere => cases nowhere.symm.trans near
  | remembered nearest met =>
    cases same nearest
    cases new.symm.trans met
  | unlisted nearest _ directory =>
    cases same nearest
    exact ⟨_, directory, rfl, by rintro _ _ ⟨⟩⟩
  | unversioned nearest _ directory =>
    cases same nearest
    exact ⟨_, directory, rfl, by rintro _ _ ⟨⟩⟩
  | listed nearest _ directory =>
    cases same nearest
    refine ⟨_, directory, rfl, ?_⟩
    rintro _ _ ⟨⟩
    exact ⟨rfl, rfl⟩

/-- An attempt that fails about a manifest did not know it. -/
theorem failed_unknown {failure : Failure} (failed : attempt.outcome root memo = .error failure)
    (near : attempt.manifest? root = some manifest) : memo.find? manifest = none := by
  cases known : memo.find? manifest with
  | none => rfl
  | some version =>
    rw [(known_answered near known).1] at failed
    cases failed

/-- A changelog without a manifest fails alike with any memo. -/
theorem orphan_reported (nowhere : attempt.manifest? root = none) :
    reported (attempt.outcome root memo) = .error (.manifestNotFound attempt.changelog) := by
  obtain ⟨calls, came, after, resolving, outcome, -⟩ := attempt_resolves root memo attempt
  rw [outcome]
  cases resolving with
  | orphan => rfl
  | remembered nearest => cases nowhere.symm.trans nearest
  | unlisted nearest => cases nowhere.symm.trans nearest
  | unversioned nearest => cases nowhere.symm.trans nearest
  | listed nearest => cases nowhere.symm.trans nearest

/-- What is reported of a manifest that is not known comes from its listing. -/
theorem unknown_reported (near : attempt.manifest? root = some manifest)
    (new : memo.find? manifest = none) {project : Path}
    (directory : manifest.parent? = some project) :
    reported (attempt.outcome root memo) = fromListing manifest (attempt.listing project) := by
  obtain ⟨calls, came, after, resolving, outcome, -⟩ := attempt_resolves root memo attempt
  rw [outcome]
  have same {manifest' project' : Path} (nearest : manifestAt attempt.view.cwd root
      attempt.changelog (⟨attempt.view.disk, attempt.memory⟩ : Moment σ) = some manifest')
      (above : manifest'.parent? = some project') : manifest = manifest' ∧ project = project' := by
    cases nearest.symm.trans near
    exact ⟨rfl, Option.some.inj (directory.symm.trans above)⟩
  cases resolving with
  | orphan nowhere => cases nowhere.symm.trans near
  | remembered nearest met =>
    cases nearest.symm.trans near
    cases new.symm.trans met
  | unlisted nearest _ above asked =>
    obtain ⟨rfl, rfl⟩ := same nearest above
    have answer : attempt.listing project = .error _ := asked.1
    rw [answer]
    rfl
  | unversioned nearest _ above asked silent =>
    obtain ⟨rfl, rfl⟩ := same nearest above
    have answer : attempt.listing project = .ok _ := asked.1
    simp only [answer, fromListing, Except.bind, silent]
    rfl
  | listed nearest _ above asked read =>
    obtain ⟨rfl, rfl⟩ := same nearest above
    have answer : attempt.listing project = .ok _ := asked.1
    simp only [answer, fromListing, Except.bind, read]
    rfl

/-- With a lister that goes by the directory alone, an attempt reports what it
would report without a memo. -/
theorem reported_as_listed (lister : Path → Except Failure String)
    (spelled : ∀ project project' : Path, project.sameAs project' = true →
      lister project = lister project')
    (uses : ∀ attempt ∈ attempts, attempt.Uses lister) (last : attempt.Uses lister) :
    reported (attempt.outcome root (memoAfter root attempts)) =
      reported (attempt.outcome root Memo.empty) := by
  cases near : attempt.manifest? root with
  | none => rw [orphan_reported near, orphan_reported near]
  | some manifest =>
    obtain ⟨project, directory, -⟩ := unknown_listed near (rfl : Memo.empty.find? manifest = none)
    rw [unknown_reported near (rfl : Memo.empty.find? manifest = none) directory]
    cases known : (memoAfter root attempts).find? manifest with
    | none => rw [unknown_reported near known directory]
    | some version =>
      obtain ⟨text, listed, read⟩ := remembered_as_listed lister spelled uses known directory
      have answer : attempt.listing project = .ok text :=
        (last project attempt.view attempt.memory).trans listed
      rw [(known_answered near known).1, answer]
      simp only [fromListing, Except.bind, read]
      rfl

/-- One resolver through any attempts. Its memo has exactly the manifests some
attempt found a version for, with the version the first such attempt read. A
known manifest is never listed again and any other one is listed, so a failure
is not remembered; the size of the memo is the number of versions that were read.
Hence a lister that goes by the directory alone hides the memo altogether. -/
theorem resolver_remembers (root : Path) (attempts : List (Attempt σ)) :
    let memo := memoAfter root attempts
    (∀ manifest, (∃ version, memo.find? manifest = some version) ↔
      ∃ earlier attempt later, attempts = earlier ++ attempt :: later ∧
        attempt.Succeeds root (memoAfter root earlier) manifest) ∧
    (∀ manifest version, memo.find? manifest = some version ↔
      ∃ first, FirstSuccess root attempts manifest first ∧ first.Lists root version) ∧
    (∀ (next : Attempt σ) manifest, next.manifest? root = some manifest →
      (∀ version, memo.find? manifest = some version →
        next.outcome root memo = .ok (⟨manifest, version, true⟩, memo) ∧
          next.asked root memo = []) ∧
      (memo.find? manifest = none →
        ∃ project, manifest.parent? = some project ∧
          next.asked root memo = [.dependencies project] ∧
          ∀ found memo', next.outcome root memo = .ok (found, memo') →
            found.manifest = manifest ∧ found.cached = false)) ∧
    (∀ (next : Attempt σ) failure, next.outcome root memo = .error failure →
      memoAfter root (attempts ++ [next]) = memo ∧
      ∀ (again : Attempt σ) manifest manifest', next.manifest? root = some manifest →
        again.manifest? root = some manifest' → manifest.sameAs manifest' = true →
        ∃ project, manifest'.parent? = some project ∧
          again.asked root (memoAfter root (attempts ++ [next])) = [.dependencies project]) ∧
    memo.size = (outcomes root Memo.empty attempts).countP isFresh ∧
    (∀ lister : Path → Except Failure String,
      (∀ project project' : Path, project.sameAs project' = true →
        lister project = lister project') →
      (∀ attempt ∈ attempts, attempt.Uses lister) →
      ∀ next : Attempt σ, next.Uses lister →
        reported (next.outcome root memo) = reported (next.outcome root Memo.empty)) := by
  intro memo
  refine ⟨fun manifest => ⟨?_, ?_⟩, fun _ _ => memoAfter_find_iff, fun next manifest near => ?_,
    fun next failure failed => ?_, ?_, fun lister spelled uses next last => ?_⟩
  · rintro ⟨version, known⟩
    obtain ⟨first, earlier, later, split, succeeds, -⟩ := firstSuccess_of_known known
    exact ⟨earlier, first, later, split, succeeds⟩
  · rintro ⟨earlier, attempt, later, rfl, succeeds⟩
    exact success_known earlier later succeeds
  · exact ⟨fun version known => known_answered near known, fun new => unknown_listed near new⟩
  · have same : memoAfter root (attempts ++ [next]) = memo := by
      rw [memoAfter_concat, failed]
      rfl
    refine ⟨same, fun again manifest manifest' near near' spelled => ?_⟩
    have new := failed_unknown failed near
    rw [find_congr spelled] at new
    obtain ⟨project, directory, asked, -⟩ := unknown_listed near' new
    exact ⟨project, directory, same ▸ asked⟩
  · exact (size_after root Memo.empty attempts).trans (Nat.zero_add _)
  · exact reported_as_listed lister spelled uses last

/-- A directory with a manifest, and in it another one. -/
def nestedDisk : Disk where
  top := .cons ⟨Bytes.ofString "outer", by decide⟩ (.directory programMode
    (.cons manifestName (.file 0)
    (.cons ⟨Bytes.ofString "inner", by decide⟩ (.directory programMode
      (.cons manifestName (.file 0) .nil)) .nil))) .nil
  files := #[⟨.bytes [], plainMode, 0⟩]
  clock := 0
  tidy := rfl

/-- A lister that knows the version of one project. -/
def outerListing (project : Path) : Except Failure String :=
  .ok (if project.sameAs (Path.ofString "/outer") then "org.liquibase:liquibase-core:jar:4" else "")

def nestedAttempt (changelog : String) : Attempt Unit where
  tools := {
    workingTree := fun _ view _ => ⟨.ok true, view.disk, (), []⟩
    dependencies := fun project view _ => ⟨outerListing project, view.disk, (), []⟩
    download := fun _ _ view _ => ⟨.ok .fetched, view.disk, (), []⟩
    convert := fun _ _ view _ => ⟨.ok true, view.disk, (), []⟩ }
  changelog := Path.ofString changelog
  view := ⟨nestedDisk, []⟩
  memory := ()

theorem outerListing_spelled {project project' : Path} (same : project.sameAs project' = true) :
    outerListing project = outerListing project' := by
  have equal : project.components = project'.components := by simpa [Path.sameAs] using same
  have alike : project.sameAs (Path.ofString "/outer") = project'.sameAs (Path.ofString "/outer") := by
    simp [Path.sameAs, equal]
  rw [outerListing, outerListing, alike]

/-- A version that was read is remembered, a failure is not, and nobody can tell from what is
reported. -/
theorem listed_as_remembered :
    let attempts := [nestedAttempt "/outer/inner/b.xml", nestedAttempt "/outer/a.xml"]
    let memo := memoAfter (Path.ofString "/outer") attempts
    (∀ project project' : Path, project.sameAs project' = true →
      outerListing project = outerListing project') ∧
      (∀ attempt ∈ attempts, attempt.Uses outerListing) ∧
      (nestedAttempt "/outer/c.xml").asked (Path.ofString "/outer") memo = [] ∧
      (nestedAttempt "/outer/inner/c.xml").asked (Path.ofString "/outer") memo =
        [.dependencies (Path.ofString "/outer/inner")] ∧
      ∀ changelog, reported ((nestedAttempt changelog).outcome (Path.ofString "/outer") memo) =
        reported ((nestedAttempt changelog).outcome (Path.ofString "/outer") Memo.empty) := by
  intro attempts memo
  have uses (changelog : String) : (nestedAttempt changelog).Uses outerListing := fun _ _ _ => rfl
  have all : ∀ attempt ∈ attempts, attempt.Uses outerListing := by simp [attempts, uses]
  obtain ⟨-, -, meets, -, -, hidden⟩ := resolver_remembers (Path.ofString "/outer") attempts
  refine ⟨fun _ _ => outerListing_spelled, all, ?_, ?_, fun changelog => ?_⟩
  · exact ((meets (nestedAttempt "/outer/c.xml") (Path.ofString "/outer/pom.xml") (by decide)).1 "4"
      (by decide)).2
  · obtain ⟨project, above, asked, -⟩ := (meets (nestedAttempt "/outer/inner/c.xml")
      (Path.ofString "/outer/inner/pom.xml") (by decide)).2 (by decide)
    have own : (Path.ofString "/outer/inner/pom.xml").parent? = some (Path.ofString "/outer/inner") := by decide
    cases own.symm.trans above
    exact asked
  · exact hidden outerListing (fun _ _ => outerListing_spelled) all _ (uses changelog)

end ChangelogSql.ResolverAttempts
