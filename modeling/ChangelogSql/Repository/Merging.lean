import ChangelogSql.Repository.Switching

/-!
Joining what has become of one state in two ways: for whole trees, and line by
line for contents. Where both ways changed the same lines, both are shown and
somebody has to decide.
-/

namespace ChangelogSql.Repository

open Text (ascii)
open Files
open Text.Difference (linesOf)
open Utility (Form Given toggle setting)

namespace Merge

/-- A part of what is joined: lines on which both ways agree, or lines of either. -/
inductive Part where
  | agreed (lines : List Bytes)
  | disputed (ours theirs : List Bytes)

/-- A stretch of the common lines that was changed, and the changes on both sides in it. -/
structure Stretch where
  start : Nat
  stop : Nat
  ours : List Text.Difference.Change
  theirs : List Text.Difference.Change

/-- Changes of both sides in stretches; those that touch are in the same one. `fuel` bounds how many
there are. -/
def stretches : Nat → List Text.Difference.Change → List Text.Difference.Change → List Stretch
  | 0, _, _ => []
  | _, [], [] => []
  | fuel + 1, ours, theirs =>
    let first (changes : List Text.Difference.Change) : Option Nat :=
      changes.head?.map (·.oldStart)
    let start :=
      match first ours, first theirs with
      | some place, some other => min place other
      | some place, none | none, some place => place
      | none, none => 0
    let rec grow : Nat → Nat → List Text.Difference.Change → List Text.Difference.Change →
        List Text.Difference.Change → List Text.Difference.Change → Stretch × List _ × List _
      | 0, stop, taken, taken', ours, theirs => (⟨start, stop, taken, taken'⟩, ours, theirs)
      | fuel + 1, stop, taken, taken', ours, theirs =>
        match ours, theirs with
        | change :: rest, _ =>
          if change.oldStart ≤ stop then
            grow fuel (max stop (change.oldStart + change.oldCount)) (taken ++ [change]) taken'
              rest theirs
          else
            match theirs with
            | change :: rest =>
              if change.oldStart ≤ stop then
                grow fuel (max stop (change.oldStart + change.oldCount)) taken
                  (taken' ++ [change]) ours rest
              else (⟨start, stop, taken, taken'⟩, ours, theirs)
            | [] => (⟨start, stop, taken, taken'⟩, ours, theirs)
        | [], change :: rest =>
          if change.oldStart ≤ stop then
            grow fuel (max stop (change.oldStart + change.oldCount)) taken (taken' ++ [change])
              ours rest
          else (⟨start, stop, taken, taken'⟩, ours, theirs)
        | [], [] => (⟨start, stop, taken, taken'⟩, ours, theirs)
    let (stretch, ours, theirs) :=
      grow (ours.length + theirs.length + 1) start [] [] ours theirs
    stretch :: stretches fuel ours theirs

/-- The lines of one side that stand for a stretch of the common ones. -/
def sideOf (base side : Array Bytes) (stretch : Stretch)
    (changes : List Text.Difference.Change) : List Bytes :=
  match changes.head?, changes.getLast? with
  | some first, some last =>
    let start := first.newStart - (first.oldStart - stretch.start)
    let stop := last.newStart + last.newCount + (stretch.stop - (last.oldStart + last.oldCount))
    (side.extract start stop).toList
  | _, _ => (base.extract stretch.start stretch.stop).toList

/-- What two sides made of common lines, in parts. -/
def parts (base ours theirs : Array Bytes) : List Part :=
  let first := Text.Difference.ofLines .best base ours
  let second := Text.Difference.ofLines .best base theirs
  let all := stretches (first.length + second.length + 1) first second
  let (place, parts) := all.foldl
    (fun (place, parts) stretch =>
      let before := Part.agreed (base.extract place stretch.start).toList
      let mine := sideOf base ours stretch stretch.ours
      let other := sideOf base theirs stretch stretch.theirs
      let part :=
        if stretch.theirs.isEmpty || mine = other then Part.agreed mine
        else if stretch.ours.isEmpty then .agreed other
        else .disputed mine other
      (stretch.stop, part :: before :: parts))
    (0, [])
  (Part.agreed (base.extract place base.size).toList :: parts).reverse

/-- Contents joined, and whether somebody has to decide. Lines in dispute stand between marks with
the names of the sides. -/
def joined (nameOurs nameTheirs : Bytes) (base ours theirs : Bytes) : Bytes × Bool :=
  let parts := parts (linesOf base) (linesOf ours) (linesOf theirs)
  let mark (sign : Char) (name : Bytes) : Bytes :=
    List.replicate 7 (ascii sign) ++ (if name = [] then [] else 0x20 :: name) ++ [0x0A]
  let ended (lines : List Bytes) : Bytes :=
    let text := lines.flatten
    if text = [] || text.getLast? = some 0x0A then text else text ++ [0x0A]
  let shown (part : Part) : Bytes :=
    match part with
    | .agreed lines => lines.flatten
    | .disputed ours theirs =>
      mark '<' nameOurs ++ ended ours ++ mark '=' [] ++ ended theirs ++ mark '>' nameTheirs
  let isDisputed := parts.any fun part =>
    match part with
    | .disputed .. => true
    | .agreed _ => false
  (parts.flatMap shown, isDisputed)

end Merge

/-- What joining two states comes to. -/
structure Joined where
  snapshot : Snapshot
  /-- What is said about single paths. -/
  told : List Bytes
  /-- Paths on which somebody has to decide. -/
  disputed : List Bytes

namespace Work

/-- What two states made of one, joined. -/
def joinStates (nameOurs nameTheirs : Bytes) (base ours theirs : Snapshot) : Work Joined := do
  let paths := ((base ++ ours ++ theirs).map Prod.fst).eraseDups.mergeSort fun a b => a ≤ b
  let mut joined : Joined := ⟨[], [], []⟩
  for path in paths do
    let old := base.find? path
    let mine := ours.find? path
    let other := theirs.find? path
    let take (joined : Joined) (leaf? : Option Leaf) : Joined :=
      match leaf? with
      | some leaf => { joined with snapshot := joined.snapshot.insert path leaf }
      | none => joined
    if mine = other || old = other then joined := take joined mine
    else if old = mine then joined := take joined other
    else
      let session ← get
      match mine, other with
      | some mine, some other =>
        let bytes (leaf? : Option Leaf) : Bytes :=
          (leaf?.map (keptContent session path)).getD []
        let (content, isDisputed) :=
          Merge.joined nameOurs nameTheirs (bytes old) (bytes (some mine)) (bytes (some other))
        let id ← keep (.blob content)
        let kind :=
          if old.map Leaf.kind = some mine.kind then other.kind else mine.kind
        joined := take joined (some ⟨kind, id⟩)
        let lines := Bytes.ofString "Auto-merging " ++ path ++ [0x0A]
        let word := if old.isSome then "content" else "add/add"
        let dispute := Bytes.ofString ("CONFLICT (" ++ word ++ "): Merge conflict in ") ++ path
          ++ [0x0A]
        joined := { joined with
          told := joined.told ++ lines :: if isDisputed then [dispute] else []
          disputed := joined.disputed ++ if isDisputed then [path] else [] }
      | mine, other =>
        let (gone, left) := if mine.isNone then (nameOurs, nameTheirs) else (nameTheirs, nameOurs)
        joined := take joined (mine.or other)
        let line := Bytes.ofString "CONFLICT (modify/delete): " ++ path
          ++ Bytes.ofString " deleted in " ++ gone ++ Bytes.ofString " and modified in " ++ left
          ++ Bytes.ofString ".  Version " ++ left ++ Bytes.ofString " of " ++ path
          ++ Bytes.ofString " left in tree.\n"
        joined := { joined with
          told := joined.told ++ [line], disputed := joined.disputed ++ [path] }
  return joined

def joinForms : List Form :=
  [toggle "q" ["quiet"], toggle "no" ["no-ff"], toggle "only" ["ff-only"], toggle "ff" ["ff"],
    setting "m" ["message"], toggle "squash" ["squash"], toggle "halt" ["no-commit"],
    toggle "unedited" ["no-edit"], toggle "e" ["edit"], toggle "abort" ["abort"],
    toggle "goes" ["continue"], toggle "quit" ["quit"], toggle "n" ["no-stat"],
    toggle "stat" ["stat"], setting "s" ["strategy"], setting "X" ["strategy-option"],
    toggle "v" ["verbose"], toggle "plain" ["no-verify", "no-squash", "commit", "no-gpg-sign",
      "no-log", "allow-unrelated-histories", "progress", "no-progress", "autostash"],
    setting "F" ["file"], toggle "signoff" ["signoff"]]

/-- What a merge is called. -/
def joinMessage (text : Bytes) : Work Bytes := do
  let quoted := ascii '\'' :: text ++ [ascii '\'']
  let isBranch := (← reference? (branchName text)).isSome
  let isMark := (← reference? (Bytes.ofString "refs/tags/" ++ text)).isSome
  let word := if isBranch then "branch" else if isMark then "tag" else "commit"
  let into :=
    match ← head with
    | .reference name =>
      let name := shortName name
      if ["master", "main"].contains (Bytes.shown name) then [] else Bytes.ofString " into " ++ name
    | .detached _ => Bytes.ofString " into HEAD"
  return Bytes.ofString ("Merge " ++ word ++ " ") ++ quoted ++ into ++ [0x0A]

/-- Tells what a merge changed. -/
def tellJoined (given : Given) (old new : Snapshot) : Work Unit := do
  if !given.has "q" && !given.has "n" then
    let session ← get
    let deltas := Delta.between (keptContent session) (keptContent session) true old new
    put (Patch.bars Patch.Look.plain deltas ++ Patch.summary deltas)

/-- Writes what has been joined into the working tree, and stages it. -/
def layJoined (committed : Snapshot) (joined : Joined) (verb : String) : Work Unit := do
  refuseObstacles verb verb (← obstacles committed joined.snapshot)
  carryOver committed joined.snapshot

/-- Joins another commit to the one that is the head. -/
def joinHead (given : Given) (text : Bytes) (theirs : Named) : Work Unit := do
  let ours ← commitNamed (Bytes.ofString "HEAD")
  let bases ← mergeBases ours theirs
  let committed ← snapshotOf ours.2.tree
  let target ← snapshotOf theirs.2.tree
  let say (text : Bytes) : Work Unit := if given.has "q" then pure () else putLine text
  if bases.any fun base => base.1 = theirs.1 then say (Bytes.ofString "Already up to date.")
  else if bases = [] && !given.has "plain" then
    die (Bytes.ofString "refusing to merge unrelated histories")
  else
    let isForward := bases.any (fun base => base.1 = ours.1)
    if isForward && !given.has "no" && !given.has "squash" then
      refuseObstacles "merge" "merge" (← obstacles committed target)
      say (Bytes.ofString "Updating " ++ short ours.1 ++ Bytes.ofString ".." ++ short theirs.1)
      carryOver committed target
      setOwn (Bytes.ofString "ORIG_HEAD") (ours.1 ++ [0x0A])
      advance theirs.1 (Bytes.ofString "merge " ++ text ++ Bytes.ofString ": Fast-forward")
      say (Bytes.ofString "Fast-forward")
      tellJoined given committed target
    else if given.has "only" then
      die (Bytes.ofString "Not possible to fast-forward, aborting.")
    else
      let base ←
        match bases with
        | base :: _ => snapshotOf base.2.tree
        | [] => pure []
      let joined ← joinStates (Bytes.ofString "HEAD") text base committed target
      layJoined committed joined "merge"
      for line in joined.told do
        put line
      let message ←
        match valuesOf given "m" with
        | [] => joinMessage text
        | paragraphs => pure (Message.joined paragraphs)
      if given.has "squash" then
        putLine (Bytes.ofString "Squash commit -- not updating HEAD")
        if joined.disputed = [] then
          putLine (Bytes.ofString
            "Automatic merge went well; stopped before committing as requested")
        else stop 1
      else
        if joined.disputed ≠ [] || given.has "halt" then
          setOwn (Bytes.ofString "MERGE_HEAD") (theirs.1 ++ [0x0A])
          setOwn (Bytes.ofString "MERGE_MSG") message
        if joined.disputed ≠ [] then
          putLine (Bytes.ofString
            "Automatic merge failed; fix conflicts and then commit the result.")
          stop 1
        else if given.has "halt" then
          putLine (Bytes.ofString
            "Automatic merge went well; stopped before committing as requested")
        else
          let tree ← keepTrees joined.snapshot
          let author ← signature "AUTHOR"
          let committer ← signature "COMMITTER"
          let id ← keep (.commit ⟨tree, [ours.1, theirs.1], author, committer,
            Message.cleaned false message⟩)
          advance id (Bytes.ofString "merge " ++ text
            ++ Bytes.ofString ": Merge made by the 'ort' strategy.")
          say (Bytes.ofString "Merge made by the 'ort' strategy.")
          tellJoined given committed joined.snapshot

/-- Joins another commit to the head, or takes it over where nothing was recorded before. -/
def joinOne (given : Given) (text : Bytes) : Work Unit := do
  if (← headId?).isNone then
    if given.has "squash" then
      die (Bytes.ofString "Squash commit into empty head not supported yet")
    if given.has "no" then
      die (Bytes.ofString "Non-fast-forward commit does not make sense into an empty head")
  let theirs ←
    match ← meant? text with
    | some id =>
      match ← commitOf? id with
      | some named => pure named
      | none => fail 1 (text ++ Bytes.ofString " - not something we can merge")
    | none =>
      note (Bytes.ofString "merge: " ++ text ++ Bytes.ofString " - not something we can merge\n")
      stop 1
  if (← headId?).isSome then joinHead given text theirs
  else
    let target ← snapshotOf theirs.2.tree
    refuseObstacles "merge" "merge" (← obstacles [] target)
    carryOver [] target
    advance theirs.1 (Bytes.ofString "initial pull")

/-- Joins other commits to the head, or gives up an attempt to. -/
def join (arguments : List Bytes) : Work Unit := do
  let given ← options joinForms arguments
  if given.has "abort" then
    if (← joining) = [] then
      die (Bytes.ofString "There is no merge to abort (MERGE_HEAD missing).")
    else
      reset (["--hard", "-q"].map Bytes.ofString)
  else if given.has "goes" then commit [Bytes.ofString "--no-edit"]
  else
    match given.operands with
    | [text] => joinOne given text
    | [] => die (Bytes.ofString "No remote for the current branch.")
    | _ => die (Bytes.ofString "merging more than one commit is not possible")

def replayForms : List Form :=
  [toggle "n" ["no-commit"], toggle "unedited" ["no-edit"], toggle "e" ["edit"],
    toggle "x", toggle "s" ["signoff"], setting "m" ["mainline"], toggle "abort" ["abort"],
    toggle "goes" ["continue"], toggle "skip" ["skip"], toggle "quit" ["quit"],
    toggle "empty" ["allow-empty"], toggle "kept" ["keep-redundant-commits"],
    toggle "ff" ["ff"], setting "strategy" ["strategy"], setting "X" ["strategy-option"]]

/-- Does once more what a commit did, or takes it back. -/
def replayOne (given : Given) (isBackward : Bool) (text : Bytes) : Work Unit := do
  let named ← commitNamed text
  let headId ←
    match ← headId? with
    | some id => pure id
    | none => die (Bytes.ofString "your current branch does not have any commits yet")
  let committed ← headSnapshot
  let after ← snapshotOf named.2.tree
  let parent ← snapshotOfCommit? named.2.parents.head?
  let (base, target) := if isBackward then (after, parent) else (parent, after)
  let name := short named.1 ++ Bytes.ofString " (" ++ named.2.subject ++ [ascii ')']
  let name := if isBackward then Bytes.ofString "parent of " ++ name else name
  let index ← staged
  if index ≠ committed then
    let word := if isBackward then "revert" else "cherry-pick"
    fail 128 (Bytes.ofString ("your local changes would be overwritten by " ++ word ++ "."))
  let joined ← joinStates (Bytes.ofString "HEAD") name base committed target
  layJoined committed joined "merge"
  for line in joined.told do
    put line
  let message :=
    if isBackward then
      Bytes.ofString "Revert \"" ++ named.2.subject ++ Bytes.ofString "\"\n\nThis reverts commit "
        ++ named.1 ++ Bytes.ofString ".\n"
    else if given.has "x" then
      Message.ended named.2.message ++ Bytes.ofString "\n(cherry picked from commit " ++ named.1
        ++ Bytes.ofString ")\n"
    else named.2.message
  let setPending : Work Unit := do
    setOwn (Bytes.ofString (if isBackward then "REVERT_HEAD" else "CHERRY_PICK_HEAD"))
      (named.1 ++ [0x0A])
    setOwn (Bytes.ofString "MERGE_MSG") message
  if joined.disputed ≠ [] then
    setPending
    note (Bytes.ofString "error: could not apply " ++ short named.1 ++ Bytes.ofString "... "
      ++ named.2.subject ++ [0x0A])
    stop 1
  else if given.has "n" then
    setOwn (Bytes.ofString "MERGE_MSG") message
    if isBackward then setPending
  else if joined.snapshot = committed && !given.has "empty" && !given.has "kept" then
    if !isBackward then setPending
    let standing ← standing .directories
    put (standing.full (← site) "No commits yet" false)
    if !isBackward then
      note (Bytes.ofString
        "The previous cherry-pick is now empty, possibly due to conflict resolution.\n")
    stop 1
  else
    let tree ← keepTrees joined.snapshot
    let committer ← signature "COMMITTER"
    let author ← if isBackward then signature "AUTHOR" else pure named.2.author
    let message := if given.has "s" then Message.signedOff committer message else message
    let made : Commit := ⟨tree, [headId], author, committer, Message.cleaned false message⟩
    let id ← keep (.commit made)
    let word := if isBackward then "revert: " else "cherry-pick: "
    advance id (Bytes.ofString word ++ made.subject)
    tellCommit id made false true

/-- Ends what was begun: goes on with it, passes it over or gives it up. -/
def endReplay (isBackward : Bool) (word : String) : Work Unit := do
  let name := if isBackward then "REVERT_HEAD" else "CHERRY_PICK_HEAD"
  let isBegun := (← own? (Bytes.ofString name)).isSome
  if word = "quit" then forgetPending
  else if !isBegun then
    note (Bytes.ofString "error: no cherry-pick or revert in progress\n")
    die (Bytes.ofString ((if isBackward then "revert" else "cherry-pick") ++ " failed"))
  else if word = "goes" then commit [Bytes.ofString "--no-edit"]
  else reset (["--hard", "-q"].map Bytes.ofString)

/-- Does once more what commits did. -/
def replay (isBackward : Bool) (arguments : List Bytes) : Work Unit := do
  let given ← options replayForms arguments
  match given.last? ["abort", "goes", "skip", "quit"] with
  | some word =>
    endReplay isBackward word
    return
  | none => pure ()
  if isBackward && !given.has "unedited" && !given.has "n" && !(← isIdleEditor) then
    if given.operands ≠ [] then
      note (Bytes.ofString "error: Terminal is dumb, but EDITOR unset\n")
      stop 1
  for text in given.operands do
    match rangeOf? text with
    | some (first, second, _) =>
      let new ← commitNamed second
      let old ← commitNamed first
      for named in (← history false [new] [old]).reverse do
        replayOne given isBackward named.1
    | none => replayOne given isBackward text

/-- The states that were put aside, the last first. -/
def shelved : Work (List Move) := journal (Bytes.ofString "refs/stash")

/-- Writes down which states are put aside. -/
def setShelved (moves : List Move) : Work Unit := do
  let reference := Bytes.ofString "refs/stash"
  match moves with
  | [] => eraseReference reference
  | last :: _ =>
    setOwn reference (last.new ++ [0x0A])
    setOwn (journalName reference) (moves.reverse.flatMap Move.line)

/-- The number of a state that was put aside. -/
def shelfPlace (text? : Option Bytes) : Work Nat := do
  match text? with
  | none => return 0
  | some text =>
    let number := (Text.afterBlock? (Bytes.ofString "stash@\x7b") text).map fun rest =>
      rest.takeWhile (· ≠ 0x7D)
    match (number.getD text) |> Text.Ascii.decimal? with
    | some number => return number
    | none => fail 1 (text ++ Bytes.ofString " is not a valid reference")

/-- Puts the state of the working tree aside. -/
def shelve (arguments : List Bytes) : Work Unit := do
  let given ← options [setting "m" ["message"], toggle "q" ["quiet"],
    toggle "u" ["include-untracked"], toggle "a" ["all"], toggle "k" ["keep-index"],
    toggle "loose" ["no-keep-index"], toggle "S" ["staged"], toggle "p" ["patch"]] arguments
  let named ←
    match ← headId? with
    | some id =>
      match ← commit? id with
      | some commit => pure (id, commit)
      | none => fail 1 (Bytes.ofString "You do not have the initial commit yet")
    | none =>
      note (Bytes.ofString "You do not have the initial commit yet\n")
      stop 1
  let scopes ← scopes given.operands
  let committed ← headSnapshot
  let index ← staged
  let dropped := committed.filter fun entry => (index.find? entry.1).isNone
  let before ← trackedNow
    (dropped.foldl (fun kept (path, leaf) => Snapshot.insert kept path leaf) index)
  let exclusions ← exclusions
  let untracked := (← found).filter fun (path, found) =>
    (given.has "u" || given.has "a") && (index.find? path).isNone && found ≠ .module
      && (given.has "a" || !Exclusion.excludes exclusions path false) && Scope.admits scopes path
  if before = committed && index = committed && untracked.isEmpty then
    if !given.has "q" then putLine (Bytes.ofString "No local changes to save")
  else
    let branch ←
      match ← head with
      | .reference name => pure (shortName name)
      | .detached _ => pure (Bytes.ofString "(no branch)")
    let tail := short named.1 ++ 0x20 :: named.2.subject
    let title :=
      match given.value? "m" with
      | some text => Bytes.ofString "On " ++ branch ++ Bytes.ofString ": " ++ text
      | none => Bytes.ofString "WIP on " ++ branch ++ Bytes.ofString ": " ++ tail
    let author ← signature "AUTHOR"
    let committer ← signature "COMMITTER"
    let save (snapshot : Snapshot) (parents : List Id) (message : Bytes) : Work Id := do
      let tree ← keepTrees snapshot
      keep (.commit ⟨tree, parents, author, committer, message ++ [0x0A]⟩)
    for (path, _) in before do
      match (← foundMap)[path]? with
      | some found => let _ ← taken path found
      | none => pure ()
    let indexId ← save index [named.1]
      (Bytes.ofString "index on " ++ branch ++ Bytes.ofString ": " ++ tail)
    let mut others : List Id := []
    if !untracked.isEmpty then
      let mut snapshot : Snapshot := []
      for (path, found) in untracked do
        snapshot := snapshot.insert path (← taken path found)
      others := [← save snapshot []
        (Bytes.ofString "untracked files on " ++ branch ++ Bytes.ofString ": " ++ tail)]
    let id ← save before ([named.1, indexId] ++ others) title
    let moves ← shelved
    setShelved (⟨(moves.head?.map Move.new).getD noId, id, committer, title⟩ :: moves)
    let wanted := if given.has "k" then index else committed
    let inside (snapshot : Snapshot) : Snapshot := limited scopes snapshot
    let outside (snapshot : Snapshot) : Snapshot :=
      snapshot.filter fun entry => scopes ≠ [] && !Scope.admits scopes entry.1
    layOut (inside before) (inside wanted)
    setStaged ((inside wanted).foldl (fun kept (path, leaf) => Snapshot.insert kept path leaf)
      (outside index))
    for (path, _) in untracked do
      eraseOuter path
    if !given.has "q" then
      putLine (Bytes.ofString "Saved working directory and index state " ++ title)

/-- Takes a state that was put aside back into the working tree. -/
def unshelve (arguments : List Bytes) (drops : Bool) : Work Unit := do
  let given ← options [toggle "q" ["quiet"], toggle "index" ["index"]] arguments
  let place ← shelfPlace given.operands.head?
  let moves ← shelved
  match moves[place]? with
  | none =>
    if moves.isEmpty then
      note (Bytes.ofString "No stash entries found.\n")
      stop 1
    else
      fail 1 (Bytes.ofString s!"stash@\x7b{place}\x7d is not a valid reference")
  | some move =>
    let (_, commit) ← commitNamed move.new
    let base ← snapshotOfCommit? commit.parents.head?
    let kept ← snapshotOf commit.tree
    let saved ← snapshotOfCommit? commit.parents[1]?
    let loose ← snapshotOfCommit? commit.parents[2]?
    let session ← get
    let index ← staged
    let now ← trackedNow index
    for (path, _) in now do
      match (← foundMap)[path]? with
      | some found => let _ ← taken path found
      | none => pure ()
    let joined ← joinStates (Bytes.ofString "Updated upstream")
      (Bytes.ofString "Stashed changes") base now kept
    let blocked := base.map Prod.fst |>.filter fun path =>
      base.find? path ≠ kept.find? path && now.find? path ≠ index.find? path
    let covered := loose.filter fun entry =>
      (session.view.linkStat (session.site.outer entry.1)).toOption.isSome
    if blocked ≠ [] then
      note (Bytes.ofString ("error: Your local changes to the following files would be overwritten "
        ++ "by merge:\n") ++ namesBelow blocked
        ++ Bytes.ofString ("Please commit your changes or stash them before you merge.\nAborting\n"))
      stop 1
    else if !covered.isEmpty then
      for (path, _) in covered do
        note (path ++ Bytes.ofString " already exists, no checkout\n")
      fail 1 (Bytes.ofString "could not restore untracked files from stash")
    else
      for line in joined.told do
        put line
      layOut now joined.snapshot
      layOut [] loose
      let fresh := joined.snapshot.filter fun entry => (base.find? entry.1).isNone
      let next :=
        if given.has "index" then saved
        else fresh.foldl (fun index (path, leaf) => Snapshot.insert index path leaf) index
      setStaged next
      if !given.has "q" then
        let standing ← standing .directories
        put (standing.full session.site "No commits yet" false)
      if joined.disputed ≠ [] then
        if drops then
          note (Bytes.ofString "The stash entry is kept in case you need it again.\n")
        stop 1
      else if drops then
        setShelved (moves.eraseIdx place)
        if !given.has "q" then
          putLine (Bytes.ofString s!"Dropped refs/stash@\x7b{place}\x7d (" ++ move.new
            ++ [ascii ')'])

/-- Puts states of the working tree aside, lists them, and takes them back. -/
def stash (arguments : List Bytes) : Work Unit := do
  let rest := arguments.drop 1
  match (arguments.head?).map Bytes.shown with
  | none => shelve []
  | some "push" => shelve rest
  | some "save" =>
    match rest.filter fun argument => argument.head? ≠ some (ascii '-') with
    | [] => shelve rest
    | words =>
      let flags := rest.filter fun argument => argument.head? = some (ascii '-')
      shelve (flags ++ [Bytes.ofString "-m", Text.joinWith 0x20 words])
  | some "pop" => unshelve rest true
  | some "apply" => unshelve rest false
  | some "list" =>
    let moves ← shelved
    for (move, index) in moves.zipIdx do
      putLine (Bytes.ofString s!"stash@\x7b{index}\x7d: " ++ move.reason)
  | some "drop" =>
    let given ← options [toggle "q" ["quiet"]] rest
    let place ← shelfPlace given.operands.head?
    let moves ← shelved
    match moves[place]? with
    | none =>
      note (Bytes.ofString "No stash entries found.\n")
      stop 1
    | some move =>
      setShelved (moves.eraseIdx place)
      if !given.has "q" then
        putLine (Bytes.ofString s!"Dropped refs/stash@\x7b{place}\x7d (" ++ move.new
          ++ [ascii ')'])
  | some "clear" => setShelved []
  | some "show" =>
    let given ← options Showing.forms rest
    let place ← shelfPlace given.operands.head?
    match (← shelved)[place]? with
    | none =>
      note (Bytes.ofString "No stash entries found.\n")
      stop 1
    | some move =>
      let (_, commit) ← commitNamed move.new
      let showing := Showing.ofGiven given false
      let showing := if showing.shows then showing else { showing with hasBars := true }
      put (showing.bytes (fun _ => false) (← deltasOf true commit))
  | some word =>
    if word.startsWith "-" then shelve arguments
    else
      fail 1 (Bytes.ofString ("unknown subcommand: " ++ word))

end Work

end ChangelogSql.Repository
