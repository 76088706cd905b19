import ChangelogSql.Repository.Reference

/-!
Bringing the working tree to another state: another commit, what is staged, or
what is kept of single paths. What would be lost without having been kept stays,
and the command is refused.
-/

namespace ChangelogSql.Repository

open Text (ascii)
open Files
open Utility (Form Given toggle setting)

namespace Work

/-- Puts what is kept at a path of the working tree. -/
def layDown (path : Bytes) (leaf : Leaf) : Work Unit := do
  let session ← get
  let place := session.site.outer path
  let bytes := keptContent session path leaf
  let mode (bits : Nat) : Nat := bits &&& (0o777 ^^^ session.umask)
  match session.view.linkStat place with
  | .ok (.directory ..) =>
    if leaf.kind ≠ .module then
      let _ ← change fun view => view.removeDirectory place
  | .ok _ =>
    let _ ← change fun view => view.unlink place
  | .error _ =>
    for directory in directoriesOf path do
      match (← view).linkStat (session.site.outer directory) with
      | .ok (.directory ..) | .error _ => pure ()
      | .ok _ =>
        let _ ← change fun view => view.unlink (session.site.outer directory)
  let _ ←
    match leaf.kind with
    | .link => change fun view => do
      let disk ←
        match place.parent? with
        | some parent => view.makeDirectories parent
        | none => .ok view.disk
      View.symlink { view with disk } ⟨bytes⟩ place
    | .module | .directory => change fun view => view.makeDirectories place
    | .program => change fun view => written view place bytes (mode 0o777)
    | .file => change fun view => written view place bytes (mode 0o666)

/-- Brings the working tree from one state to another. -/
def layOut (old new : Snapshot) : Work Unit := do
  let known : Std.HashMap Bytes Leaf := Std.HashMap.ofList new
  let before : Std.HashMap Bytes Leaf := Std.HashMap.ofList old
  for (path, _) in old do
    if !known.contains path then
      eraseOuter path
  for (path, leaf) in new do
    if before[path]? ≠ some leaf then
      layDown path leaf

/-- What a commit holds, where there is one. -/
def snapshotOfCommit? (id? : Option Id) : Work Snapshot := do
  match id? with
  | none => return []
  | some id =>
    match ← commitOf? id with
    | some (_, commit) => snapshotOf commit.tree
    | none => return []

/-- What stands in the working tree at the paths that are tracked, by paths. -/
def standingNow (index : Snapshot) : Work (Std.HashMap Bytes Leaf) := do
  return Std.HashMap.ofList (← trackedNow index)

/-- Paths as they are listed in a complaint. -/
def namesBelow (paths : List Bytes) : Bytes :=
  paths.flatMap fun path => 0x09 :: path ++ [0x0A]

/-- The paths that stand between the working tree and another state: those that are tracked and have
changed, and those that are not tracked. -/
def obstacles (committed target : Snapshot) : Work (List Bytes × List Bytes) := do
  let session ← get
  let index ← staged
  let now ← standingNow index
  let exclusions ← exclusions
  let paths := ((committed ++ target).map Prod.fst).eraseDups.filter fun path =>
    committed.find? path ≠ target.find? path
  let changed := paths.filter fun path =>
    let here := index.find? path
    let isStaged := here ≠ committed.find? path && here ≠ target.find? path
    let isStanding :=
      match here with
      | some leaf => here ≠ target.find? path && now[path]?.any (· ≠ leaf)
      | none => false
    isStaged || isStanding
  let untracked := paths.filter fun path =>
    (index.find? path).isNone && (target.find? path).isSome
      && (session.view.linkStat (session.site.outer path)).toOption.isSome
      && !Exclusion.excludes exclusions path false
  return (changed, untracked)

/-- Refuses a change of the working tree in which something would be lost. -/
def refuseObstacles (verb rest : String) (obstacles : List Bytes × List Bytes) : Work Unit := do
  let (changed, untracked) := obstacles
  if changed ≠ [] then
    note (Bytes.ofString "error: Your local changes to the following files would be overwritten by "
      ++ Bytes.ofString (verb ++ ":\n") ++ namesBelow changed
      ++ Bytes.ofString ("Please commit your changes or stash them before you " ++ rest ++ ".\n"))
  if untracked ≠ [] then
    note (Bytes.ofString "error: The following untracked working tree files would be overwritten by "
      ++ Bytes.ofString (verb ++ ":\n") ++ namesBelow untracked
      ++ Bytes.ofString ("Please move or remove them before you " ++ rest ++ ".\n"))
  if changed ≠ [] || untracked ≠ [] then
    note (Bytes.ofString "Aborting\n")
    stop 1

/-- Brings what is staged and the working tree from one commit to another; what has been changed
beside that stays changed. -/
def carryOver (committed target : Snapshot) : Work Unit := do
  let index ← staged
  let gone := committed.filter fun entry => (target.find? entry.1).isNone
  let fresh := target.filter fun entry => committed.find? entry.1 ≠ some entry.2
  let next := gone.foldl (fun index entry => index.erase entry.1) index
  let next := fresh.foldl (fun index (path, leaf) => Snapshot.insert index path leaf) next
  setStaged next
  layOut (index.filter fun entry => gone.any (·.1 = entry.1) || fresh.any (·.1 = entry.1))
    fresh

/-- Tells which paths of the working tree differ from a commit. -/
def tellLocal (committed : Snapshot) : Work Unit := do
  let session ← get
  let index ← staged
  let now ← trackedNow index
  let deltas := Delta.between (keptContent session) (treeContent session) false committed now
  put (Patch.letters ⟨0x0A, true⟩ deltas)

/-- Where a working tree is brought to. -/
structure Destination where
  head : Head
  id? : Option Id
  /-- How it is called where it is noted. -/
  name : Bytes

/-- How the head is called where its changes are noted. -/
def headName : Work Bytes := do
  match ← head with
  | .reference name => return shortName name
  | .detached id => return id

/-- Brings the working tree to a commit and lets the head lead there. -/
def goTo (destination : Destination) (isForced isQuiet : Bool) : Work Unit := do
  let committed ← headSnapshot
  let target ← snapshotOfCommit? destination.id?
  let before ← headName
  if isForced then
    layOut (← staged) []
    layOut [] target
    setStaged target
  else
    refuseObstacles "checkout" "switch branches" (← obstacles committed target)
    carryOver committed target
    if !isQuiet && destination.id?.isSome then
      tellLocal target
  let reason := Bytes.ofString "checkout: moving from " ++ before ++ Bytes.ofString " to "
    ++ destination.name
  let stays := (← head) = destination.head && destination.name = Bytes.ofString "HEAD"
  if !stays then turnHead destination.head destination.id? reason
  forgetPending

/-- Where to go to as it is said; a single dash stands for what was left last. -/
def goal (text : Bytes) : Work Bytes := do
  if text = [ascii '-'] then return (← branchBefore? 1).getD text else return text

/-- A branch by its name, where there is one. -/
def branchNamed? (name : Bytes) : Work (Option Destination) := do
  match ← reference? (branchName name) with
  | some id => return some ⟨.reference (branchName name), some id, name⟩
  | none => return none

/-- Takes single paths from what is staged, or from a commit, into the working tree. -/
def takePaths (source? : Option Snapshot) (scopes : List Scope) (intoIndex intoTree drops : Bool) :
    Work Nat := do
  let index ← staged
  let source := source?.getD index
  for scope in scopes do
    if !(source ++ if drops then index else []).any fun entry => scope.meets entry.1 then
      fail 1 (Bytes.ofString "pathspec '" ++ scope.text
        ++ Bytes.ofString "' did not match any file(s) known to git")
  let wanted := source.filter fun entry => Scope.admits scopes entry.1
  let gone :=
    if !drops then []
    else
      (index.filter fun entry =>
        Scope.admits scopes entry.1 && (source.find? entry.1).isNone).map Prod.fst
  let mut count := 0
  if intoTree then
    let now ← trackedNow wanted
    for (path, leaf) in wanted do
      if now.find? path ≠ some leaf then
        layDown path leaf
        count := count + 1
    for path in gone do
      eraseOuter path
  if intoIndex then
    let next := gone.foldl Snapshot.erase index
    setStaged (wanted.foldl (fun index (path, leaf) => Snapshot.insert index path leaf) next)
  return if source?.isSome then wanted.length else count

def checkoutForms : List Form :=
  [setting "b", setting "B", setting "c" ["create"], setting "C" ["force-create"],
    toggle "f" ["force", "discard-changes"], toggle "q" ["quiet"], toggle "detach" ["d", "detach"],
    setting "orphan" ["orphan"], ⟨"t", ["track"], .perhaps⟩, toggle "free" ["no-track"],
    toggle "m" ["merge"], toggle "l", toggle "guess" ["guess", "no-guess"],
    toggle "ours" ["ours"], toggle "theirs" ["theirs"], toggle "p" ["patch"],
    toggle "progress" ["progress", "no-progress"], toggle "overlay" ["overlay", "no-overlay"],
    setting "conflict" ["conflict"]]

/-- Makes a branch and goes there. -/
def goToNew (given : Given) (name : Bytes) (isForced : Bool) (start? : Option Bytes) :
    Work Unit := do
  checkBranchName name
  let reference := branchName name
  if (← reference? reference).isSome && !isForced then
    die (Bytes.ofString "a branch named '" ++ name ++ Bytes.ofString "' already exists")
  else
    match start?, ← headId? with
    | none, none => setOwn (Bytes.ofString "HEAD") (Bytes.ofString "ref: " ++ reference ++ [0x0A])
    | start?, _ =>
      let (id, _) ← commitNamed (start?.getD (Bytes.ofString "HEAD"))
      let destination : Destination := ⟨.reference reference, some id, name⟩
      match start? with
      | some _ => goTo destination (given.has "f") (given.has "q")
      | none =>
        let before ← headName
        turnHead destination.head none []
        setOwn reference (id ++ [0x0A])
        record (Bytes.ofString "HEAD") id id
          (Bytes.ofString "checkout: moving from " ++ before ++ Bytes.ofString " to " ++ name)
      setOwn reference (id ++ [0x0A])
      record reference noId id
        (Bytes.ofString "branch: Created from " ++ start?.getD (Bytes.ofString "HEAD"))
      if !given.has "q" then
        note (Bytes.ofString "Switched to a new branch '" ++ name ++ Bytes.ofString "'\n")

/-- Goes to a branch that exists, or to a commit. -/
def goToOld (given : Given) (name : Bytes) (isDetached : Bool) : Work Bool := do
  let branch? ← if isDetached then pure none else branchNamed? name
  match branch? with
  | some destination =>
    let isSame := (← head) = destination.head
    goTo destination (given.has "f") (given.has "q")
    if !given.has "q" then
      let words := if isSame then "Already on '" else "Switched to branch '"
      note (Bytes.ofString words ++ destination.name ++ Bytes.ofString "'\n")
    return true
  | none =>
    let found? : Option (Id × Commit) ←
      match ← meant? name with
      | some id => commitOf? id
      | none => pure none
    match found? with
    | some (id, commit) =>
      let stays := !isDetached && name = Bytes.ofString "HEAD"
      let target : Head ← if stays then head else pure (.detached id)
      goTo ⟨target, some id, name⟩ (given.has "f") (given.has "q")
      if !given.has "q" && !stays then
        note (Bytes.ofString "HEAD is now at " ++ short id ++ 0x20 :: commit.subject ++ [0x0A])
      return true
    | none => return false

/-- Lets the head lead to a branch that has no commits yet. -/
def goToOrphan (name : Bytes) (clears : Bool) : Work Unit := do
  checkBranchName name
  if (← reference? (branchName name)).isSome then
    die (Bytes.ofString "a branch named '" ++ name ++ Bytes.ofString "' already exists")
  else
    if clears then
      layOut (← staged) []
      setStaged []
    setOwn (Bytes.ofString "HEAD") (Bytes.ofString "ref: " ++ branchName name ++ [0x0A])
    note (Bytes.ofString "Switched to a new branch '" ++ name ++ Bytes.ofString "'\n")

/-- Takes paths that arguments name, and tells how many there were. -/
def checkoutPaths (given : Given) (source? : Option Bytes) (paths : List Bytes) : Work Unit := do
  let scopes ← scopes paths
  let source ←
    match source? with
    | some text => do pure (some (← snapshotNamed text))
    | none => pure none
  let count ← takePaths source scopes source.isSome true false
  if !given.has "q" then
    let origin ←
      match source? with
      | some text =>
        match ← treeOf? (← meant text) with
        | some tree => pure (short tree)
        | none => pure text
      | none => pure (Bytes.ofString "the index")
    let words := if count = 1 then "path from " else "paths from "
    note (Bytes.ofString s!"Updated {count} {words}" ++ origin ++ [0x0A])

/-- Goes to a branch or a commit, or takes single paths from one. -/
def checkout (arguments : List Bytes) : Work Unit := do
  let (front, behind?) := divided arguments
  let given ← options checkoutForms front
  match (given.value? "b").or (given.value? "B"), given.value? "orphan" with
  | some name, _ => goToNew given name (given.has "B") given.operands.head?
  | none, some name => goToOrphan name false
  | none, none =>
    match given.operands, behind? with
    | [], some (path :: paths) => checkoutPaths given none (path :: paths)
    | [text], some (path :: paths) => checkoutPaths given (some text) (path :: paths)
    | [], _ =>
      if given.has "f" then goTo ⟨← head, ← headId?, Bytes.ofString "HEAD"⟩ true true
      else if (← headId?).isNone then die (Bytes.ofString "You are on a branch yet to be born")
      else if given.has "detach" then
        let _ ← goToOld given (Bytes.ofString "HEAD") true
      else if !given.has "q" then tellLocal (← headSnapshot)
    | text :: rest, _ =>
      let text ← goal text
      let isKnown := (← branchNamed? text).isSome || (← meant? text).isSome
      if isKnown && rest ≠ [] then checkoutPaths given (some text) rest
      else if isKnown then
        if !(← goToOld given text (given.has "detach")) then
          fail 1 (Bytes.ofString "pathspec '" ++ text
            ++ Bytes.ofString "' did not match any file(s) known to git")
      else checkoutPaths given none (text :: rest)

/-- Goes to a branch. -/
def switch (arguments : List Bytes) : Work Unit := do
  let given ← options checkoutForms arguments
  match (given.value? "c").or (given.value? "C"), given.value? "orphan", given.operands with
  | some name, _, operands => goToNew given name (given.has "C") operands.head?
  | none, some name, _ => goToOrphan name true
  | none, none, [] =>
    if given.has "detach" then
      let _ ← goToOld given (Bytes.ofString "HEAD") true
    else die (Bytes.ofString "missing branch or commit argument")
  | none, none, text :: _ =>
    let text ← goal text
    let isBranch := (← branchNamed? text).isSome
    if !isBranch && !given.has "detach" then
      match ← meant? text with
      | some _ =>
        die (Bytes.ofString "a branch is expected, got commit '" ++ text ++ [ascii '\''])
      | none => die (Bytes.ofString "invalid reference: " ++ text)
    else if !(← goToOld given text (given.has "detach")) then
      die (Bytes.ofString "invalid reference: " ++ text)

/-- Takes single paths from what is staged or from a commit. -/
def restore (arguments : List Bytes) : Work Unit := do
  let given ← options [toggle "S" ["staged"], toggle "W" ["worktree"], setting "s" ["source"],
    toggle "q" ["quiet"], toggle "overlay" ["overlay", "no-overlay"], toggle "p" ["patch"],
    toggle "progress" ["progress", "no-progress"], toggle "ours" ["ours", "theirs"],
    toggle "m" ["merge"]] arguments
  if given.operands = [] then
    die (Bytes.ofString "you must specify path(s) to restore")
  else
    let scopes ← scopes given.operands
    if given.has "S" && !given.has "s" && (← headId?).isNone then
      die (Bytes.ofString "could not resolve HEAD")
    let source ←
      match given.value? "s" with
      | some text => do pure (some (← snapshotNamed text))
      | none => if given.has "S" then do pure (some (← headSnapshot)) else pure none
    let intoTree := given.has "W" || !given.has "S"
    let _ ← takePaths source scopes (given.has "S") intoTree (source.isSome)

/-- Lets the head lead to another commit, and takes over from there what is asked for. -/
def reset (arguments : List Bytes) : Work Unit := do
  let (front, behind?) := divided arguments
  let given ← options [toggle "soft" ["soft"], toggle "mixed" ["mixed"], toggle "hard" ["hard"],
    toggle "keep" ["keep"], toggle "merge" ["merge"], toggle "q" ["quiet", "no-refresh"],
    toggle "loud" ["no-quiet", "refresh"], toggle "N" ["intent-to-add"], toggle "p" ["patch"]] front
  let (text, paths) ←
    match given.operands, behind? with
    | [], behind? => pure (Bytes.ofString "HEAD", behind?.getD [])
    | text :: rest, some behind => pure (text, rest ++ behind)
    | text :: rest, none =>
      if (← meant? text).isSome then pure (text, rest)
      else do
        if !(← canBePath text) then unknownRevision text
        pure (Bytes.ofString "HEAD", text :: rest)
  let isFresh := (← headId?).isNone && text = Bytes.ofString "HEAD"
  let target : Snapshot ← if isFresh then pure [] else snapshotNamed text
  let mode := (given.last? ["soft", "mixed", "hard", "keep", "merge"]).getD "mixed"
  let index ← staged
  if paths ≠ [] then
    if mode ≠ "mixed" then
      die (Bytes.ofString ("Cannot do " ++ mode ++ " reset with paths."))
    else
      let scopes ← scopes paths
      let kept := index.filter fun entry => !Scope.admits scopes entry.1
      let wanted := target.filter fun entry => Scope.admits scopes entry.1
      setStaged (wanted.foldl (fun kept (path, leaf) => Snapshot.insert kept path leaf) kept)
  else
    let found? ← if isFresh then pure none else do pure (some (← commitNamed text))
    match mode with
    | "soft" => pure ()
    | "hard" =>
      let now ← trackedNow index
      let committed := now.filter fun entry => target.find? entry.1 ≠ some entry.2
      for (path, _) in committed do
        if (target.find? path).isNone then eraseOuter path
      for (path, leaf) in target do
        if now.find? path ≠ some leaf then layDown path leaf
      setStaged target
    | "keep" | "merge" =>
      refuseObstacles "reset" "reset" (← obstacles (← headSnapshot) target)
      carryOver (← headSnapshot) target
    | _ => setStaged target
    match found? with
    | some (id, commit) =>
      match ← headId? with
      | some old => setOwn (Bytes.ofString "ORIG_HEAD") (old ++ [0x0A])
      | none => pure ()
      advance id (Bytes.ofString "reset: moving to " ++ text)
      forgetPending
      if mode = "hard" && !given.has "q" then
        putLine (Bytes.ofString "HEAD is now at " ++ short id ++ 0x20 :: commit.subject)
    | none => pure ()
  if mode = "mixed" && !given.has "q" then
    let deltas ← unstagedDeltas (← staged)
    if !deltas.isEmpty && (← headId?).isSome then
      put (Bytes.ofString "Unstaged changes after reset:\n"
        ++ Patch.letters ⟨0x0A, true⟩ deltas)

def cleanForms : List Form :=
  [toggle "n" ["dry-run"], toggle "f" ["force"], toggle "d", toggle "x", toggle "X",
    toggle "q" ["quiet"], setting "e" ["exclude"], toggle "i" ["interactive"]]

/-- Takes a path away with all that is below it. -/
def eraseBelow (path : Bytes) : Work Unit := do
  let session ← get
  let location :=
    match session.view.locate (session.site.outer path) with
    | .ok location => some location
    | .error _ => none
  match location with
  | some location =>
    let disk := session.view.disk.erase location
    set { session with view := { session.view with disk } }
  | none => pure ()

/-- Takes away what is not tracked. -/
def clean (arguments : List Bytes) : Work Unit := do
  let given ← options cleanForms arguments
  let session ← get
  let site := session.site
  let needsForce ← isSet "clean.requireforce" true
  if needsForce && !given.has "f" && !given.has "n" then
    die (Bytes.ofString ("clean.requireForce defaults to true and neither -i, -n, nor -f given; "
      ++ "refusing to clean"))
  else
    let scopes ← scopes given.operands
    let index ← staged
    let own := (valuesOf given "e").filterMap (Exclusion.ofLine? [] [] 1)
    let exclusions := (← if given.has "x" then pure [] else exclusions) ++ own
    let others := (← found).filter fun entry => (index.find? entry.1).isNone
    let entries := others.map fun (path, found) => (path, found = .module)
    let (out, free) := entries.partition fun (path, isModule) =>
      Exclusion.excludes exclusions path isModule
    let (kept, wanted) := if given.has "X" then (free, out) else (out, free)
    let isHere (path : Bytes) : Bool := scopes ≠ [] || site.inner.isPrefixOf path
    let tracked : Snapshot := index ++ kept.map fun (path, _) => (path, ⟨.file, noId⟩)
    let all := untrackedPaths tracked .directories scopes (wanted.filter fun e => isHere e.1)
    let isDirectory (path : Bytes) : Bool := path.getLast? = some separator
    let wholes := all.filter fun path =>
      (given.has "d" || scopes.any (fun s => s.meets (path.take (path.length - 1)) && s.path ≠ []))
        || !isDirectory path
    let covered (path : Bytes) : Bool := wholes.any fun whole => whole.isPrefixOf path
    let empty := (← emptyDirectories).filter fun path =>
      given.has "d" && isHere path && Scope.admits scopes path.dropLast && !covered path
    let paths := (wholes ++ empty).mergeSort fun path other => path ≤ other
    for path in paths do
      if !(isDirectory path && entries.contains (path.dropLast, true)) then
        let shown := shownPath false (site.relative path)
        if given.has "n" then putLine (Bytes.ofString "Would remove " ++ shown)
        else
          if isDirectory path then eraseBelow path.dropLast
          else
            let _ ← change fun view => view.unlink (site.outer path)
          if !given.has "q" then putLine (Bytes.ofString "Removing " ++ shown)

end Work

end ChangelogSql.Repository
