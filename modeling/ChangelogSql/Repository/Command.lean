import ChangelogSql.Repository.Inspection
import ChangelogSql.Repository.Merging
import ChangelogSql.Repository.Preference
import ChangelogSql.Repository.Review
import ChangelogSql.Repository.Setup

/-!
The commands of version control by their names, and the options in front of them
that all of them share.
-/

namespace ChangelogSql.Repository

open Text (ascii)
open Files Programs
open Utility (Form Given toggle setting)

namespace Work

/-- The version that is told. -/
def version : String := "2.39.5"

/-- Keeps what is staged as directories, and tells the name of the top. -/
def writeTree (arguments : List Bytes) : Work Unit := do
  let _ ← options [toggle "missing" ["missing-ok"], setting "front" ["prefix"]] arguments
  putLine (← keepTrees (← staged))

/-- Makes a commit of a directory that is kept, and tells its name. -/
def commitTree (arguments : List Bytes) : Work Unit := do
  let given ← options [setting "p", setting "m", setting "F", toggle "S"] arguments
  match given.operands with
  | [text] =>
    let tree ←
      match ← treeOf? (← meant text) with
      | some tree => pure tree
      | none => die (text ++ Bytes.ofString " is not a valid 'tree' object")
    let parents ← (valuesOf given "p").mapM fun text => do pure (← commitNamed text).1
    let author ← signature "AUTHOR"
    let committer ← signature "COMMITTER"
    let message ←
      match valuesOf given "m", given.value? "F" with
      | [], some path => fileOrInput path
      | [], none => input
      | paragraphs, _ => pure (Message.joined paragraphs)
    putLine (← keep (.commit ⟨tree, parents, author, committer, message⟩))
  | _ => misused (Bytes.ofString "usage: git commit-tree <tree> [(-p <parent>)...]")

/-- Stages what a directory holds that is kept. -/
def readTree (arguments : List Bytes) : Work Unit := do
  let given ← options [toggle "m", toggle "u", toggle "reset" ["reset"], toggle "i",
    toggle "empty" ["empty"], setting "front" ["prefix"], toggle "v", toggle "n"] arguments
  if given.has "empty" then setStaged []
  else
    let before ← staged
    match given.operands with
    | text :: _ =>
      let snapshot ← snapshotNamed text
      let snapshot :=
        match given.value? "front" with
        | some front =>
          snapshot.foldl
            (fun index (path, leaf) => Snapshot.insert index (front ++ path) leaf) before
        | none => snapshot
      if given.has "u" then layOut before snapshot
      setStaged snapshot
    | [] => misused (Bytes.ofString "usage: git read-tree <tree-ish>")

/-- Makes a directory of the entries that the input lists. -/
def makeTree (_ : List Bytes) : Work Unit := do
  let lines := (Text.splitAt 0x0A (← input)).filter (· ≠ [])
  let entries : List Entry := lines.filterMap fun line => do
    let front := line.takeWhile (· ≠ 0x09)
    let words := Text.splitAt 0x20 front
    let kind ← (words[0]?).bind Kind.ofDigits?
    return ⟨line.drop (front.length + 1), kind, (words[2]?).getD noId⟩
  let key (entry : Entry) : Bytes :=
    if entry.kind = .directory then entry.name ++ [separator] else entry.name
  putLine (← keep (.tree (entries.mergeSort fun entry other => key entry ≤ key other)))

/-- Stages single paths. -/
def updateIndex (arguments : List Bytes) : Work Unit := do
  let given ← options [toggle "add" ["add"], toggle "remove" ["remove"],
    setting "cacheinfo" ["cacheinfo"], toggle "refresh" ["refresh", "really-refresh"],
    setting "chmod" ["chmod"], toggle "q", toggle "forced" ["force-remove"],
    toggle "plain" ["assume-unchanged", "no-assume-unchanged", "skip-worktree",
      "no-skip-worktree"], toggle "stdin" ["stdin"], toggle "z"] arguments
  let index ← staged
  let known ← foundMap
  let mut next := index
  for text in valuesOf given "cacheinfo" do
    match Text.splitAt (ascii ',') text with
    | mode :: id :: rest =>
      let path := Text.joinWith (ascii ',') rest
      match Kind.ofDigits? mode with
      | some kind => next := next.insert path ⟨kind, id⟩
      | none => die (Bytes.ofString "git update-index: --cacheinfo cannot add " ++ path)
    | _ => misused (Bytes.ofString "option 'cacheinfo' expects <mode>,<sha1>,<path>")
  let more ← if given.has "stdin" then
      do pure ((Text.splitAt 0x0A (← input)).filter (· ≠ []))
    else pure []
  for text in given.operands ++ more do
    let scope ← Scope.ofArgument text
    let path := scope.path
    if given.has "forced" then next := next.erase path
    else
      match known[path]?, next.find? path with
      | some found, before? =>
        if before?.isNone && !given.has "add" then
          note (Bytes.ofString "error: " ++ path
            ++ Bytes.ofString (": cannot add to the index - missing --add option?\n"))
          die (Bytes.ofString "Unable to process path " ++ path)
        else
          let leaf ← taken path found
          let leaf :=
            match (given.value? "chmod").map Bytes.shown with
            | some "+x" => { leaf with kind := .program }
            | some "-x" => { leaf with kind := .file }
            | _ => leaf
          next := next.insert path leaf
      | none, some _ =>
        if given.has "remove" then next := next.erase path
        else
          note (Bytes.ofString "error: " ++ path
            ++ Bytes.ofString ": does not exist and --remove not passed\n")
          die (Bytes.ofString "Unable to process path " ++ path)
      | none, none => die (Bytes.ofString "Unable to process path " ++ path)
  setStaged next

/-- Shows what has changed between two states, as a list unless another form is asked for. -/
def listChanges (given : Given) (isLoose : Bytes → Bool) (title? : Option Id)
    (deltas : List Delta) : Work Unit := do
  let showing := Showing.ofGiven given false
  let showing :=
    if showing.shows || given.has "s" then showing else { showing with roll? := some .raw }
  let look := { showing.look with isFull := true }
  let showing := { showing with look := if showing.hasPatch then showing.look else look }
  let deltas := showing.chosen deltas
  if !given.has "quiet" then
    match title? with
    | some id => if !deltas.isEmpty then putLine id
    | none => pure ()
    put (showing.bytes isLoose deltas)
  endWithVerdict given deltas

/-- Changes as they appear where directories are not entered: one for each name at the top. -/
def shallow (session : Session) (old new : Id) (scopes : List Scope) : List Delta :=
  let entries (id : Id) : List Entry :=
    match object? session id with
    | some (.tree entries) => entries
    | _ => []
  let before := entries old
  let after := entries new
  let names := ((before ++ after).map Entry.name).eraseDups.mergeSort fun a b => a ≤ b
  let side (entry : Entry) : Side := ⟨entry.name, ⟨entry.kind, entry.id⟩, []⟩
  (names.filter fun name => Scope.admits scopes name || scopes.any fun scope =>
    (name ++ [separator]).isPrefixOf scope.path).filterMap fun name =>
    let was := before.find? fun entry => entry.name = name
    let is := after.find? fun entry => entry.name = name
    match was, is with
    | some was, some is =>
      if was = is then none else some ⟨.modified, some (side was), some (side is)⟩
    | some was, none => some ⟨.deleted, some (side was), none⟩
    | none, some is => some ⟨.added, none, some (side is)⟩
    | none, none => none

/-- Shows what has changed between two directories that are kept, or what a commit changed. -/
def compareTrees (arguments : List Bytes) : Work Unit := do
  let (front, behind?) := divided arguments
  let given ← options (Showing.forms ++ [toggle "root" ["root"], toggle "v", toggle "headless"
    ["no-commit-id"], toggle "m", toggle "c", toggle "cc" ["cc"], toggle "stdin" ["stdin"],
    setting "format" ["format", "pretty"]]) front
  let (revisions, scopes) ← partsOf given.operands behind?
  let session ← get
  let isDeep := given.has "r" || given.has "p" || given.has "u" || given.has "stat"
    || given.has "t" || given.has "numstat" || given.has "shortstat"
  let showing := Showing.ofGiven given false
  let detects := given.has "M" || given.has "C"
  let pair? : Option (Option Id × Id × Option Id) ←
    match revisions with
    | [text] =>
      let (id, commit) ← commitNamed text
      match commit.parents with
      | parent :: _ =>
        match ← treeOf? parent with
        | some tree => pure (some (some tree, commit.tree, some id))
        | none => pure none
      | [] => pure (if given.has "root" then some (none, commit.tree, some id) else none)
    | [first, second] =>
      match ← treeOf? (← meant first), ← treeOf? (← meant second) with
      | some old, some new => pure (some (some old, new, none))
      | _, _ => pure none
    | _ => misused (Bytes.ofString "usage: git diff-tree [<options>] <tree-ish> [<tree-ish>]")
  match pair? with
  | none => pure ()
  | some (old?, new, title?) =>
    let title? := if given.has "headless" then none else title?
    let deltas ←
      if isDeep || showing.hasPatch then
        let old ←
          match old? with
          | some old => snapshotOf old
          | none => pure []
        let new ← snapshotOf new
        pure (Delta.between (keptContent session) (keptContent session) detects
          (limited scopes old) (limited scopes new))
      else pure (shallow session (old?.getD noId) new scopes)
    listChanges given (fun _ => false) title? deltas

/-- Shows what has changed beside a directory that is kept. -/
def compareIndex (arguments : List Bytes) : Work Unit := do
  let (front, behind?) := divided arguments
  let given ← options (Showing.forms ++ [toggle "cached" ["cached"], toggle "m"]) front
  let (revisions, scopes) ← partsOf given.operands behind?
  match revisions with
  | [_] =>
    let showing := { Showing.ofGiven given false with detectsRenames := given.has "M" }
    let (deltas, isLoose) ← comparedDeltas given showing revisions scopes
    listChanges given isLoose none deltas
  | _ => misused (Bytes.ofString "usage: git diff-index [<options>] <tree-ish> [<path>...]")

/-- Shows what has changed in the working tree beside what is staged. -/
def compareFiles (arguments : List Bytes) : Work Unit := do
  let (front, behind?) := divided arguments
  let given ← options (Showing.forms ++ [toggle "q"]) front
  let scopes ← scopes (given.operands ++ behind?.getD [])
  let deltas ← unstagedDeltas (← staged)
  listChanges given (fun _ => true) none
    (deltas.filter fun delta => Scope.admits scopes delta.path)

/-- How many objects are kept, and how much room they take. -/
def countObjects (arguments : List Bytes) : Work Unit := do
  let given ← options [toggle "v" ["verbose"], toggle "H" ["human-readable"]] arguments
  let session ← get
  let count :=
    match session.view.stat (session.site.path (Bytes.ofString "objects")) with
    | .ok (.directory _ entries) =>
      Numeral.total (entries.toList.map fun (name, node) =>
        match node with
        | .directory _ inner => if name.bytes.length = 2 then inner.toList.length else 0
        | _ => 0)
    | _ => 0
  if given.has "v" then
    put (Bytes.ofString (s!"count: {count}\nsize: {4 * count}\nin-pack: 0\npacks: 0\n"
      ++ "size-pack: 0\nprune-packable: 0\ngarbage: 0\nsize-garbage: 0\n"))
  else putLine (Bytes.ofString s!"{count} objects, {4 * count} kilobytes")

/-- Lists other repositories that are known, or changes what is known of them. -/
def remotes (arguments : List Bytes) : Work Unit := do
  let given ← options [toggle "v" ["verbose"]] arguments
  let front := Bytes.ofString "remote."
  let ending := Bytes.ofString ".url"
  let found := (← settings).filterMap fun setting =>
    match Text.afterBlock? front setting.name with
    | some rest =>
      if ending.isSuffixOf rest then
        some (rest.take (rest.length - ending.length), setting.value?.getD [])
      else none
    | none => none
  let setOf (name : Bytes) : Bytes := front ++ name ++ ending
  let unknown (name : Bytes) : Work Unit :=
    fail 2 (Bytes.ofString "No such remote '" ++ name ++ [ascii '\''])
  match given.operands.map Bytes.shown, given.operands with
  | [], _ =>
    for (name, address) in sorted found do
      if given.has "v" then
        putLine (name ++ 0x09 :: address ++ Bytes.ofString " (fetch)")
        putLine (name ++ 0x09 :: address ++ Bytes.ofString " (push)")
      else putLine name
  | ["add", _, _], [_, name, address] =>
    if (found.lookup name).isSome then
      fail 3 (Bytes.ofString "remote " ++ name ++ Bytes.ofString " already exists.")
    else
      let content := (← own? (Bytes.ofString "config")).getD []
      let content := Setting.append content (setOf name) address
      setOwn (Bytes.ofString "config") (Setting.append content
        (front ++ name ++ Bytes.ofString ".fetch")
        (Bytes.ofString "+refs/heads/*:refs/remotes/" ++ name ++ Bytes.ofString "/*"))
  | ["get-url", _], [_, name] =>
    match found.lookup name with
    | some address => putLine address
    | none => unknown name
  | ["set-url", _, _], [_, name, address] =>
    if (found.lookup name).isNone then unknown name
    else
      let content := (← own? (Bytes.ofString "config")).getD []
      setOwn (Bytes.ofString "config") (Setting.set content (setOf name) address)
  | [word, _], [_, name] =>
    if !(["remove", "rm"].contains word) then
      fail 1 (Bytes.ofString ("Unknown subcommand: " ++ word))
    else if (found.lookup name).isNone then unknown name
    else
      let content := (← own? (Bytes.ofString "config")).getD []
      let own := front ++ name ++ [ascii '.']
      let left := (Setting.placed [] (Setting.linesOf content)).filter fun entry => entry.1 ≠ own
      setOwn (Bytes.ofString "config") (left.flatMap fun entry => entry.2 ++ [0x0A])
  | word :: _, _ =>
    fail 1 (Bytes.ofString ("Unknown subcommand: " ++ word))

/-- Tells what would be used where something is done. -/
def tellUsed (arguments : List Bytes) : Work Unit := do
  match arguments.map Bytes.shown with
  | ["GIT_AUTHOR_IDENT"] => putLine (← signature "AUTHOR").bytes
  | ["GIT_COMMITTER_IDENT"] => putLine (← signature "COMMITTER").bytes
  | ["GIT_DEFAULT_BRANCH"] =>
    putLine ((← valueOf? "init.defaultbranch").getD (Bytes.ofString "master"))
  | ["GIT_PAGER"] => putLine (Bytes.ofString "cat")
  | ["GIT_EDITOR"] =>
    match firstOf [← setting? "GIT_EDITOR", ← valueOf? "core.editor", ← setting? "VISUAL",
      ← setting? "EDITOR"] with
    | some name => putLine name
    | none => fail 1 (Bytes.ofString "Terminal is dumb, but EDITOR unset")
  | _ => misused (Bytes.ofString "usage: git var (-l | <variable>)")

/-- Lists the working trees of the repository. -/
def worktrees (arguments : List Bytes) : Work Unit := do
  match arguments.map Bytes.shown with
  | "list" :: _ =>
    let id := ((← headId?).map short).getD (Bytes.ofString "0000000")
    let branch ←
      match ← head with
      | .reference name => pure (ascii '[' :: shortName name ++ [ascii ']'])
      | .detached _ => pure (Bytes.ofString "(detached HEAD)")
    putLine ((← site).top ++ Bytes.ofString "  " ++ id ++ 0x20 :: branch)
  | "prune" :: _ => pure ()
  | _ => die (Bytes.ofString "this working tree cannot be changed")

/-- Tells what is noted beside commits, which is nothing. -/
def tellNotes (arguments : List Bytes) : Work Unit := do
  match arguments.map Bytes.shown with
  | [] | ["list"] => pure ()
  | "show" :: _ | "list" :: _ =>
    match ← headId? with
    | some id => fail 1 (Bytes.ofString "no note found for object " ++ id ++ [ascii '.'])
    | none => die (Bytes.ofString "failed to resolve 'HEAD' as a valid ref.")
  | _ => die (Bytes.ofString "nothing can be noted")

def searchForms : List Form :=
  [toggle "n" ["line-number"], toggle "l" ["files-with-matches", "name-only"],
    toggle "L" ["files-without-match"], toggle "c" ["count"], toggle "i" ["ignore-case"],
    toggle "v" ["invert-match"], toggle "w" ["word-regexp"], toggle "E" ["extended-regexp"],
    toggle "F" ["fixed-strings"], toggle "G" ["basic-regexp"], toggle "h", toggle "H",
    setting "e", toggle "q" ["quiet"], toggle "cached" ["cached"], toggle "o" ["only-matching"],
    toggle "free" ["untracked"], toggle "outside" ["no-index"], toggle "I", toggle "a" ["text"],
    ⟨"color", ["color"], .perhaps⟩, toggle "plain" ["no-color", "full-name", "heading", "break"]]

/-- The lines of tracked files in which an expression occurs. -/
def searchFiles (arguments : List Bytes) : Work Unit := do
  let (front, behind?) := divided arguments
  let given ← options searchForms front
  let session ← get
  let (patterns, rest) :=
    match valuesOf given "e", given.operands with
    | [], pattern :: rest => ([pattern], rest)
    | patterns, rest => (patterns, rest)
  if patterns = [] then die (Bytes.ofString "no pattern given")
  let (revisions, scopes) ← partsOf rest behind?
  let plain (text : Bytes) : Bytes :=
    let special := Bytes.ofString ".[]*^$\\"
    let text := if !given.has "F" then text
      else text.flatMap fun b => if special.contains b then [0x5C, b] else [b]
    if given.has "w" then Bytes.ofString "\\b" ++ text ++ Bytes.ofString "\\b" else text
  let form := if given.has "E" then Utility.Expression.extended else Utility.Expression.basic
  let mut programs : List Utility.Expression.Program := []
  for text in patterns do
    match Utility.Expression.compile form (given.has "i") false (plain text) with
    | .ok program => programs := programs ++ [program]
    | .error _ => die (Bytes.ofString "command line, '" ++ text ++ Bytes.ofString "': bad expression")
  let all := programs
  let kept := keptContent session
  let outer := treeContent session
  let index ← staged
  let sources : List (Bytes × Snapshot × (Bytes → Leaf → Bytes)) ←
    if revisions = [] then
      if given.has "cached" then pure [([], index, kept)]
      else do pure [([], ← trackedNow index, outer)]
    else revisions.mapM fun text => do
      pure (text ++ [ascii ':'], ← snapshotNamed text, kept)
  let mut isAny := false
  for (title, snapshot, content) in sources do
    let here := snapshot.filter fun entry =>
      Scope.admits scopes entry.1 && (scopes ≠ [] || session.site.inner.isPrefixOf entry.1)
    for (path, leaf) in here do
      let bytes := content path leaf
      let lines := Setting.linesOf bytes
      let hits := lines.zipIdx.filter fun (line, _) =>
        all.any (fun program => program.occursIn line) ≠ given.has "v"
      let name := title ++ shownPath false (session.site.relative path)
      if given.has "L" then
        if hits.isEmpty then
          isAny := true
          putLine name
      else if !hits.isEmpty then
        isAny := true
        if given.has "q" then pure ()
        else if given.has "l" then putLine name
        else if given.has "c" then
          putLine (name ++ ascii ':' :: Text.Ascii.ofNat hits.length)
        else if Patch.isBinary bytes then
          putLine (Bytes.ofString "Binary file " ++ name ++ Bytes.ofString " matches")
        else
          for (line, number) in hits do
            let front := if given.has "h" then [] else name ++ [ascii ':']
            let place :=
              if given.has "n" then Text.Ascii.ofNat (number + 1) ++ [ascii ':'] else []
            putLine (front ++ place ++ line)
  if !isAny then stop 1

end Work

/-- What a command needs around it. -/
inductive Needs where
  /-- Nothing. -/
  | nothing
  /-- A repository. -/
  | repository
  /-- A repository with a working tree, in which it is called. -/
  | tree
  deriving DecidableEq

/-- A command with what it needs. -/
structure Command where
  needs : Needs
  run : List Bytes → Work Unit

namespace Command

/-- Makes a repository. -/
def setUp (arguments : List Bytes) : Work Unit := do
  let given ← Work.options [toggle "q" ["quiet"], toggle "bare" ["bare"],
    setting "b" ["initial-branch"], setting "template" ["template"],
    ⟨"shared", ["shared"], .perhaps⟩, setting "format" ["object-format"],
    setting "own" ["separate-git-dir"]] arguments
  let session ← get
  let isBare := given.has "bare"
  let directory : Path :=
    match given.operands with
    | path :: _ => ⟨path⟩
    | [] => ⟨[0x2E]⟩
  if given.operands ≠ [] then
    Work.makeDirectories directory
  let view ← Work.view
  match view.locate directory with
  | .error fault =>
    Work.die (Bytes.ofString "cannot chdir to " ++ directory.bytes ++ Bytes.ofString ": "
      ++ Bytes.ofString fault.reason)
  | .ok top =>
    let inner := top.path.join ⟨ownName⟩
    let own : Bytes :=
      match session.environment.lookup (Bytes.ofString "GIT_DIR") with
      | some path => (view.cwd.path.join ⟨path⟩).bytes
      | none => if isBare then top.path.bytes else inner.bytes
    if view.isFile inner && !isBare then
      match followedFile view top top inner with
      | .found site =>
        set { session with view, site }
        Work.setUp (given.has "q") (given.value? "b")
      | .refused reason => Work.die reason
      | .nothing => Work.die nowhere
    else
      set { session with view, site := siteAt own top top isBare }
      Work.setUp (given.has "q") (given.value? "b")

/-- Tells the version. -/
def tellVersion (_ : List Bytes) : Work Unit :=
  Work.putLine (Bytes.ofString ("git version " ++ Work.version))

/-- Does nothing that could be seen. -/
def rest (_ : List Bytes) : Work Unit := pure ()

/-- Compares; where there is no repository, files. -/
def compare (arguments : List Bytes) : Work Unit := do
  if (← Work.site).own = [] then
    let (front, behind?) := Work.divided arguments
    let given ← Work.options Work.compareForms front
    Work.compareOutside given (given.operands ++ behind?.getD [])
  else Work.compare arguments

/-- The commands by their names. -/
def all : List (String × Command) :=
  [("init", ⟨.nothing, setUp⟩), ("init-db", ⟨.nothing, setUp⟩),
    ("version", ⟨.nothing, tellVersion⟩), ("config", ⟨.nothing, Work.configure⟩),
    ("hash-object", ⟨.nothing, Work.tellDigests⟩), ("diff", ⟨.nothing, compare⟩),
    ("var", ⟨.nothing, Work.tellUsed⟩),
    ("add", ⟨.tree, Work.add⟩), ("stage", ⟨.tree, Work.add⟩), ("rm", ⟨.tree, Work.remove⟩),
    ("mv", ⟨.tree, Work.move⟩), ("commit", ⟨.tree, Work.commit⟩),
    ("status", ⟨.tree, Work.status⟩), ("checkout", ⟨.tree, Work.checkout⟩),
    ("switch", ⟨.tree, Work.switch⟩), ("restore", ⟨.tree, Work.restore⟩),
    ("reset", ⟨.tree, Work.reset⟩), ("clean", ⟨.tree, Work.clean⟩),
    ("stash", ⟨.tree, Work.stash⟩), ("merge", ⟨.tree, Work.join⟩),
    ("cherry-pick", ⟨.tree, Work.replay false⟩), ("revert", ⟨.tree, Work.replay true⟩),
    ("check-ignore", ⟨.tree, Work.tellIgnored⟩), ("grep", ⟨.tree, Work.searchFiles⟩),
    ("update-index", ⟨.tree, Work.updateIndex⟩), ("diff-files", ⟨.tree, Work.compareFiles⟩),
    ("diff-index", ⟨.repository, Work.compareIndex⟩),
    ("diff-tree", ⟨.repository, Work.compareTrees⟩), ("log", ⟨.repository, Work.log⟩),
    ("show", ⟨.repository, Work.showAll⟩), ("whatchanged", ⟨.repository, Work.log⟩),
    ("rev-list", ⟨.repository, Work.listCommits⟩),
    ("shortlog", ⟨.repository, Work.summarise⟩), ("reflog", ⟨.repository, Work.tellMoves⟩),
    ("rev-parse", ⟨.repository, Work.tellAbout⟩), ("branch", ⟨.repository, Work.branch⟩),
    ("tag", ⟨.repository, Work.mark⟩), ("cat-file", ⟨.repository, Work.tellContent⟩),
    ("ls-files", ⟨.repository, Work.tellFiles⟩), ("ls-tree", ⟨.repository, Work.tellDirectory⟩),
    ("write-tree", ⟨.repository, Work.writeTree⟩), ("mktree", ⟨.repository, Work.makeTree⟩),
    ("read-tree", ⟨.repository, Work.readTree⟩),
    ("commit-tree", ⟨.repository, Work.commitTree⟩),
    ("symbolic-ref", ⟨.repository, Work.symbolic⟩),
    ("show-ref", ⟨.repository, Work.tellPointers⟩),
    ("for-each-ref", ⟨.repository, Work.tellChosen⟩),
    ("update-ref", ⟨.repository, Work.repoint⟩), ("merge-base", ⟨.repository, Work.tellBases⟩),
    ("describe", ⟨.repository, Work.describe⟩),
    ("count-objects", ⟨.repository, Work.countObjects⟩),
    ("remote", ⟨.repository, Work.remotes⟩), ("worktree", ⟨.repository, Work.worktrees⟩),
    ("notes", ⟨.repository, Work.tellNotes⟩),
    ("gc", ⟨.repository, rest⟩), ("prune", ⟨.repository, rest⟩), ("fsck", ⟨.repository, rest⟩),
    ("repack", ⟨.repository, rest⟩), ("pack-refs", ⟨.repository, rest⟩),
    ("maintenance", ⟨.repository, rest⟩), ("update-server-info", ⟨.repository, rest⟩)]

/-- What comes in front of the name of a command. -/
structure Prologue where
  view : View
  environment : Environment
  overrides : List (Bytes × Bytes)

/-- What is to be done in the end. -/
inductive Order where
  | command (name : Bytes) (arguments : List Bytes)
  | version
  /-- Something is wrong with what comes in front. -/
  | refused (code : UInt8) (text : Bytes)
  /-- How the program is called is told. -/
  | usage

/-- Reads what comes in front of the name of a command. `fuel` bounds how much that is. -/
def prologue : Nat → List Bytes → Prologue → Order × Prologue
  | 0, _, state => (.usage, state)
  | _, [], state => (.usage, state)
  | fuel + 1, argument :: rest, state =>
    let named (name : String) (value : Bytes) : Prologue :=
      { state with
        environment := (Bytes.ofString name, value)
          :: state.environment.filter fun entry => entry.1 ≠ Bytes.ofString name }
    let text := Bytes.shown argument
    match text, rest with
    | "--version", _ | "-v", _ => (.version, state)
    | "--no-pager", _ | "-P", _ | "--paginate", _ | "-p", _ | "--no-optional-locks", _
    | "--literal-pathspecs", _ | "--no-replace-objects", _ | "--glob-pathspecs", _ =>
      prologue fuel rest state
    | "--bare", _ => prologue fuel rest state
    | "-C", directory :: rest =>
      if directory = [] then prologue fuel rest state
      else
        match state.view.stat ⟨directory⟩, state.view.locate ⟨directory⟩ with
        | .ok (.directory ..), .ok cwd =>
          prologue fuel rest { state with view := { state.view with cwd } }
        | .error fault, _ | _, .error fault =>
          (.refused 128 (Bytes.ofString "fatal: cannot change to '" ++ directory
            ++ Bytes.ofString ("': " ++ fault.reason)), state)
        | _, _ =>
          (.refused 128 (Bytes.ofString "fatal: cannot change to '" ++ directory
            ++ Bytes.ofString ("': " ++ Fault.notDirectory.reason)), state)
    | "-c", setting :: rest =>
      let name := setting.takeWhile (· ≠ ascii '=')
      let value := if name = setting then Bytes.ofString "true" else setting.drop (name.length + 1)
      prologue fuel rest { state with overrides := state.overrides ++ [(name, value)] }
    | "--git-dir", path :: rest => prologue fuel rest (named "GIT_DIR" path)
    | "--work-tree", path :: rest => prologue fuel rest (named "GIT_WORK_TREE" path)
    | "--help", _ | "-h", _ | "--exec-path", _ => (.usage, state)
    | _, _ =>
      match Text.afterBlock? (Bytes.ofString "--git-dir=") argument,
        Text.afterBlock? (Bytes.ofString "--work-tree=") argument with
      | some path, _ => prologue fuel rest (named "GIT_DIR" path)
      | none, some path => prologue fuel rest (named "GIT_WORK_TREE" path)
      | none, none =>
        if argument.head? = some (ascii '-') then
          (.refused 129 (Bytes.ofString "unknown option: " ++ argument), state)
        else (.command argument rest, state)

/-- The settings that the environment gives. -/
def givenSettings (environment : Environment) : List (Bytes × Bytes) :=
  let given? (name : String) := environment.lookup (Bytes.ofString name)
  let count := ((given? "GIT_CONFIG_COUNT").bind Text.Ascii.decimal?).getD 0
  (List.range (min count 1000)).filterMap fun index => do
    let name ← given? s!"GIT_CONFIG_KEY_{index}"
    let value ← given? s!"GIT_CONFIG_VALUE_{index}"
    return (name, value)

/-- A repository that is none. -/
def noSite (view : View) : Site :=
  ⟨[], view.cwd.path.bytes, view.cwd, [], false⟩

/-- What a command leaves behind: a code, what it said, and the disk. -/
structure Outcome where
  code : UInt8
  said : List (Stream × Bytes)
  disk : Disk

/-- An outcome in which something is said beside the output. -/
def saying (view : View) (code : UInt8) (text : Bytes) : Outcome :=
  ⟨code, [(.err, text ++ [0x0A])], view.disk⟩

/-- Carries out a command with all that it needs. -/
def carryOut (command : Command) (name : Bytes) (arguments : List Bytes) (session : Session) :
    Outcome :=
  let view := session.view
  let fatal (text : Bytes) : Outcome := saying view 128 (Bytes.ofString "fatal: " ++ text)
  let run (site : Site) : Outcome :=
    let (result, session) := ((command.run arguments).run).run { session with site }
    let code := match result with
      | .ok _ => 0
      | .error code => code
    ⟨code, session.said.reverse, session.view.disk⟩
  if arguments.contains (Bytes.ofString "-h") && arguments.length = 1 then
    ⟨129, [(.out, Bytes.ofString "usage: git " ++ name ++ [0x0A])], view.disk⟩
  else
    match search view session.environment with
    | .found site =>
      if site.isBare && command.needs = .tree then
        fatal (Bytes.ofString "this operation must be run in a work tree")
      else
        let isInside := (site.own ++ [separator]).isPrefixOf (view.cwd.path.bytes ++ [separator])
        if isInside && command.needs = .tree then
          fatal (Bytes.ofString "this operation must be run in a work tree")
        else run site
    | .nothing => if command.needs = .nothing then run (noSite view) else fatal nowhere
    | .refused reason =>
      if name = Bytes.ofString "init" then run (noSite view) else fatal reason

/-- Carries out what arguments ask for. -/
def perform (arguments : List Bytes) (view : View) (umask : Nat) (environment : Environment)
    (input : Bytes) : Outcome :=
  let (order, state) := prologue (arguments.length + 1) arguments ⟨view, environment, []⟩
  match order with
  | .version => ⟨0, [(.out, Bytes.ofString ("git version " ++ Work.version ++ "\n"))], view.disk⟩
  | .refused code text => saying view code text
  | .usage =>
    ⟨1, [(.out, Bytes.ofString ("usage: git [--version] [--help] [-C <path>] [-c <name>=<value>]\n"
      ++ "           <command> [<args>]\n"))], view.disk⟩
  | .command name arguments =>
    match all.lookup (Bytes.shown name) with
    | none =>
      saying view 1 (Bytes.ofString "git: '" ++ name
        ++ Bytes.ofString "' is not a git command. See 'git --help'.")
    | some command =>
      let overrides := givenSettings state.environment ++ state.overrides
      carryOut command name arguments
        { view := state.view, umask, environment := state.environment, input
          site := noSite state.view, overrides, said := [] }

/-- A command may read its input. -/
def readsInput (arguments : List Bytes) : Bool :=
  let words := ["-", "--stdin", "--stdin-paths", "--batch", "--batch-check", "commit-tree",
    "mktree"]
  arguments.any fun argument =>
    words.contains (Bytes.shown argument) || (Bytes.ofString "--batch").isPrefixOf argument
      || (Bytes.ofString "-F-").isPrefixOf argument || argument = Bytes.ofString "--file=-"

end Command

end ChangelogSql.Repository
