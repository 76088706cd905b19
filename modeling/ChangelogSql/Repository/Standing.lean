import ChangelogSql.Repository.Delta
import ChangelogSql.Repository.Exclusion
import ChangelogSql.Repository.Revision

/-!
The state of a working tree beside its repository, as a list for programs and as
a text for people.
-/

namespace ChangelogSql.Repository

open Text (ascii)
open Files

/-- How much is shown of what is not tracked. -/
inductive Detail where
  | nothing
  /-- A directory without a tracked path stands for all that is in it. -/
  | directories
  | everything
  deriving DecidableEq

/-- What has been begun and is not yet recorded. -/
inductive Pending where
  | merging
  /-- A commit is done once more. -/
  | repeating (id : Id)
  /-- A commit is taken back. -/
  | reverting (id : Id)
  deriving DecidableEq

/-- What is said of what has been begun. -/
def Pending.advice : Pending → Bytes
  | .merging => Bytes.ofString ("All conflicts fixed but you are still merging.\n"
    ++ "  (use \"git commit\" to conclude merge)\n\n")
  | .repeating id => step "cherry-picking" "cherry-pick" id
  | .reverting id => step "reverting" "revert" id
where
  step (doing word : String) (id : Id) : Bytes :=
    Bytes.ofString ("You are currently " ++ doing ++ " commit ") ++ Work.short id
      ++ Bytes.ofString (".\n  (all conflicts fixed: run \"git " ++ word ++ " --continue\")\n"
        ++ "  (use \"git " ++ word ++ " --skip\" to skip this patch)\n"
        ++ "  (use \"git " ++ word ++ " --abort\" to cancel the " ++ word
        ++ " operation)\n\n")

/-- How a working tree stands: what is staged, what has changed since, and what is not tracked. -/
structure Standing where
  head : Work.Head
  headId? : Option Id
  /-- How the head is called where it has no branch. -/
  detached : Bytes
  pending? : Option Pending
  staged : List Delta
  unstaged : List Delta
  untracked : List Bytes
  ignored : List Bytes
  showsIgnored : Bool
  detail : Detail
  /-- What is committed, staged and in the tree. -/
  committed : Snapshot
  index : Snapshot

/-- The paths shown for some that are not tracked. -/
def untrackedPaths (tracked : Snapshot) (detail : Detail) (scopes : List Scope)
    (free : List (Bytes × Bool)) : List Bytes :=
  let isFree (directory : Bytes) : Bool :=
    !tracked.any (fun entry => (directory ++ [separator]).isPrefixOf entry.1)
      && Scope.admits scopes directory
  let shown (entry : Bytes × Bool) : Bytes :=
    match (directoriesOf entry.1).find? isFree with
    | some directory => directory ++ [separator]
    | none => if entry.2 then entry.1 ++ [separator] else entry.1
  let full (entry : Bytes × Bool) : Bytes :=
    if entry.2 then entry.1 ++ [separator] else entry.1
  let within := free.filter fun entry => Scope.admits scopes entry.1
  match detail with
  | .nothing => []
  | .directories => (within.map shown).eraseDups
  | .everything => within.map full

/-- What is in a working tree at the paths that are tracked. -/
def Work.trackedNow (tracked : Snapshot) : Work Snapshot := do
  let session ← get
  let disk := session.view.disk
  let found := (← Work.found).filter fun entry => (tracked.find? entry.1).isSome
  return found.map fun (path, found) =>
    match found, tracked.find? path with
    | .module, some leaf => (path, leaf)
    | found, _ => (path, found.leaf disk)

/-- The content of a path of the working tree. -/
def Work.treeContent (session : Session) : Bytes → Leaf → Bytes :=
  let found : Std.HashMap Bytes Found :=
    Std.HashMap.ofList (foundBelow session.view.disk session.site.location)
  fun path _ => (found[path]?.map (Found.content session.view.disk)).getD []

/-- What is staged beside what is committed. -/
def Work.stagedDeltas (detectsRenames : Bool) (committed index : Snapshot) :
    Work (List Delta) := do
  let session ← get
  return Delta.between (keptContent session) (keptContent session) detectsRenames committed index

/-- What is in the working tree beside what is staged. -/
def Work.unstagedDeltas (index : Snapshot) : Work (List Delta) := do
  let session ← get
  let now ← Work.trackedNow index
  return Delta.between (keptContent session) (Work.treeContent session) false index now

/-- What has been begun, if there is anything. -/
def Work.pending? : Work (Option Pending) := do
  let id? (name : String) : Work (Option Id) := do
    return (← Work.own? (Bytes.ofString name)).map (List.take 40)
  if (← id? "MERGE_HEAD").isSome then return some .merging
  match ← id? "CHERRY_PICK_HEAD", ← id? "REVERT_HEAD" with
  | some id, _ => return some (.repeating id)
  | none, some id => return some (.reverting id)
  | none, none => return none

/-- The paths shown for some that are left out. `kept` are the paths that are not. -/
def ignoredPaths (exclusions : List Exclusion) (kept : List Bytes) (detail : Detail)
    (matchesOnly : Bool) (ignored : List (Bytes × Bool)) : List Bytes :=
  let isLeftOut (directory : Bytes) : Bool :=
    Exclusion.excludes exclusions directory true
      || !matchesOnly && !kept.any fun path => (directory ++ [separator]).isPrefixOf path
  let full (entry : Bytes × Bool) : Bytes :=
    if entry.2 then entry.1 ++ [separator] else entry.1
  let shown (entry : Bytes × Bool) : Bytes :=
    match (directoriesOf entry.1).find? isLeftOut with
    | some directory => directory ++ [separator]
    | none => full entry
  match detail, matchesOnly with
  | .nothing, _ => []
  | .everything, false => ignored.map full
  | _, _ => (ignored.map shown).eraseDups

/-- How the working tree stands beside an index, within some scopes. -/
def Work.standingOf (index : Snapshot) (detail : Detail) (showsIgnored matchesOnly : Bool)
    (scopes : List Scope) : Work Standing := do
  let committed ← Work.headSnapshot
  let within (deltas : List Delta) : List Delta :=
    deltas.filter fun delta => Scope.admits scopes delta.path
  let limited (snapshot : Snapshot) : Snapshot :=
    snapshot.filter fun entry => Scope.admits scopes entry.1
  let staged ← Work.stagedDeltas true (limited committed) (limited index)
  let unstaged ← Work.unstagedDeltas index
  let exclusions ← Work.exclusions
  let others := (← Work.found).filter fun entry => (index.find? entry.1).isNone
  let others := others.map fun (path, found) => (path, decide (found = .module))
  let (ignored, free) := others.partition fun (path, isModule) =>
    Exclusion.excludes exclusions path isModule
  let kept := (index.map Prod.fst) ++ free.map Prod.fst
  let ignored :=
    if showsIgnored then ignoredPaths exclusions kept detail matchesOnly ignored else []
  let head ← Work.head
  let detached ←
    match head with
    | .detached id => Work.detachedName id
    | .reference _ => pure []
  return {
    head, detached, headId? := ← Work.headId?
    pending? := ← Work.pending?, staged, unstaged := within unstaged
    untracked := untrackedPaths index detail scopes free
    ignored := ignored.filter (Scope.admits scopes), showsIgnored, detail, committed, index }

/-- How the working tree stands. -/
def Work.standing (detail : Detail) : Work Standing := do
  Work.standingOf (← Work.staged) detail false false []

namespace Standing

/-- How lines for programs are laid out. -/
structure Layout where
  site : Site
  isRelative : Bool
  /-- Paths end in a NUL and are not quoted. -/
  isRaw : Bool
  /-- Paths with blanks are quoted. -/
  quotesBlanks : Bool

def Layout.path (layout : Layout) (path : Bytes) : Bytes :=
  let path := if layout.isRelative then layout.site.relative path else path
  if layout.isRaw then path else shownPath layout.quotesBlanks path

def Layout.ending (layout : Layout) : Bytes := [if layout.isRaw then 0 else 0x0A]

/-- The change of a path among others. -/
def find? (deltas : List Delta) (path : Bytes) : Option Delta :=
  deltas.find? fun delta => delta.path = path

/-- The paths that have changed, in order. -/
def changedPaths (standing : Standing) : List Bytes :=
  ((standing.staged ++ standing.unstaged).map Delta.path).eraseDups.mergeSort
    fun path other => path ≤ other

/-- The branch as it is named in the first line. -/
def branchLine (standing : Standing) (isRaw : Bool) : Bytes :=
  let text :=
    match standing.head, standing.headId? with
    | .reference name, some _ => Work.shortName name
    | .reference name, none => Bytes.ofString "No commits yet on " ++ Work.shortName name
    | .detached _, _ => Bytes.ofString "HEAD (no branch)"
  Bytes.ofString "## " ++ text ++ [if isRaw then 0 else 0x0A]

/-- One line for each path that is not as it was committed. -/
def brief (standing : Standing) (layout : Layout) : Bytes :=
  let letter (deltas : List Delta) (path : Bytes) : UInt8 :=
    ((find? deltas path).map fun delta => delta.change.letter).getD 0x20
  let line (path : Bytes) : Bytes :=
    let signs := [letter standing.staged path, letter standing.unstaged path, 0x20]
    let old? :=
      match find? standing.staged path with
      | some ⟨.renamed _, some old, _⟩ => some old.path
      | _ => none
    match old? with
    | some old =>
      if layout.isRaw then
        signs ++ layout.path path ++ 0 :: layout.path old ++ [0]
      else
        signs ++ layout.path old ++ Bytes.ofString " -> " ++ layout.path path ++ [0x0A]
    | none => signs ++ layout.path path ++ layout.ending
  standing.changedPaths.flatMap line
    ++ standing.untracked.flatMap (fun path =>
      Bytes.ofString "?? " ++ layout.path path ++ layout.ending)
    ++ standing.ignored.flatMap (fun path =>
      Bytes.ofString "!! " ++ layout.path path ++ layout.ending)

/-- The second form of the lines for programs, with kinds and names of what is kept. -/
def detailed (standing : Standing) (layout : Layout) : Bytes :=
  let letter (deltas : List Delta) (path : Bytes) : UInt8 :=
    ((find? deltas path).map fun delta => delta.change.letter).getD (ascii '.')
  let mode (leaf? : Option Leaf) : Bytes :=
    Bytes.ofString ((leaf?.map fun leaf => leaf.kind.fullDigits).getD "000000")
  let id (leaf? : Option Leaf) : Bytes := (leaf?.map Leaf.id).getD noId
  let line (path : Bytes) : Bytes :=
    let old? :=
      match find? standing.staged path with
      | some ⟨.renamed score, some old, _⟩ => some (old, score)
      | _ => none
    let before := standing.committed.find? ((old?.map fun old => old.1.path).getD path)
    let staged := standing.index.find? path
    let now :=
      match find? standing.unstaged path with
      | some delta => delta.new?.map Side.leaf
      | none => staged
    let signs := [letter standing.staged path, letter standing.unstaged path]
    let words := [signs, Bytes.ofString "N...", mode before, mode staged, mode now, id before,
      id staged]
    let front (sign : Char) (words : List Bytes) : Bytes :=
      Text.joinWith 0x20 ([ascii sign] :: words) ++ [0x20]
    match old? with
    | some (old, score) =>
      front '2' (words ++ [Bytes.ofString s!"R{score}"]) ++ layout.path path
        ++ (if layout.isRaw then 0 else 0x09) :: layout.path old.path ++ layout.ending
    | none => front '1' words ++ layout.path path ++ layout.ending
  standing.changedPaths.flatMap line
    ++ standing.untracked.flatMap (fun path =>
      Bytes.ofString "? " ++ layout.path path ++ layout.ending)
    ++ standing.ignored.flatMap (fun path =>
      Bytes.ofString "! " ++ layout.path path ++ layout.ending)

/-- The lines about the branch in the second form. -/
def detailedBranch (standing : Standing) (isRaw : Bool) : Bytes :=
  let ending : UInt8 := if isRaw then 0 else 0x0A
  let name :=
    match standing.head with
    | .reference name => Work.shortName name
    | .detached _ => Bytes.ofString "(detached)"
  Bytes.ofString "# branch.oid " ++ standing.headId?.getD (Bytes.ofString "(initial)")
    ++ ending :: Bytes.ofString "# branch.head " ++ name ++ [ending]

/-- What is said of a changed path. -/
def label : Change → String
  | .added => "new file:   "
  | .modified => "modified:   "
  | .deleted => "deleted:    "
  | .retyped => "typechange: "
  | .renamed _ => "renamed:    "

/-- A heading with advice and the lines below it, or nothing where there are no lines. -/
def passage (heading : String) (advice : List String) (lines : List Bytes) : Bytes :=
  if lines.isEmpty then []
  else
    Bytes.ofString (heading ++ "\n")
      ++ advice.flatMap (fun text => Bytes.ofString ("  (" ++ text ++ ")\n"))
      ++ lines.flatMap (fun line => 0x09 :: line ++ [0x0A]) ++ [0x0A]

/-- A changed path as it is listed. -/
def listed (site : Site) (delta : Delta) : Bytes :=
  let shown (path : Bytes) : Bytes := shownPath false (site.relative path)
  let names :=
    match delta.change with
    | .renamed _ => shown delta.oldPath ++ Bytes.ofString " -> " ++ shown delta.path
    | _ => shown delta.path
  Bytes.ofString (label delta.change) ++ names

/-- The last line: what could be done next. `amends` tells that a commit is to be replaced. -/
def closing (standing : Standing) (amends : Bool) : String :=
  if !standing.staged.isEmpty then
    if standing.detail = .nothing then
      "Untracked files not listed (use -u option to show untracked files)\n"
    else ""
  else if amends then "No changes\n"
  else if !standing.unstaged.isEmpty then
    "no changes added to commit (use \"git add\" and/or \"git commit -a\")\n"
  else if !standing.untracked.isEmpty then
    "nothing added to commit but untracked files present (use \"git add\" to track)\n"
  else if standing.headId?.isNone then
    "nothing to commit (create/copy files and use \"git add\" to track)\n"
  else if standing.detail = .nothing then
    "nothing to commit (use -u to show untracked files)\n"
  else "nothing to commit, working tree clean\n"

/-- The state as a text; `fresh` is said where nothing has been committed yet. -/
def full (standing : Standing) (site : Site) (fresh : String) (amends : Bool) : Bytes :=
  let isFirst := standing.headId?.isNone
  let head :=
    match standing.head with
    | .reference name => Bytes.ofString "On branch " ++ Work.shortName name
    | .detached _ => standing.detached
  let unstage :=
    if standing.pending?.isSome then []
    else if isFirst then ["use \"git rm --cached <file>...\" to unstage"]
    else ["use \"git restore --staged <file>...\" to unstage"]
  let update :=
    if standing.unstaged.any fun delta => delta.change = .deleted then
      "use \"git add/rm <file>...\" to update what will be committed"
    else "use \"git add <file>...\" to update what will be committed"
  head ++ 0x0A :: ((standing.pending?.map Pending.advice).getD [])
    ++ (if isFirst then Bytes.ofString ("\n" ++ fresh ++ "\n\n") else [])
    ++ passage "Changes to be committed:" unstage (standing.staged.map (listed site))
    ++ passage "Changes not staged for commit:"
      [update, "use \"git restore <file>...\" to discard changes in working directory"]
      (standing.unstaged.map (listed site))
    ++ passage "Untracked files:"
      ["use \"git add <file>...\" to include in what will be committed"]
      (standing.untracked.map fun path => shownPath false (site.relative path))
    ++ passage "Ignored files:"
      ["use \"git add -f <file>...\" to include in what will be committed"]
      (standing.ignored.map fun path => shownPath false (site.relative path))
    ++ Bytes.ofString (standing.closing amends)

end Standing

end ChangelogSql.Repository
