import ChangelogSql.Repository.Arguments
import ChangelogSql.Repository.Exclusion
import Std.Data.HashMap

/-!
Staging: taking over what stands in the working tree, giving tracked paths other
names, and tracking them no more.
-/

namespace ChangelogSql.Repository

open Text (ascii)
open Files
open Utility (Form Given toggle setting)

namespace Work

/-- The commit that another repository in the working tree is at. -/
def moduleHead? (path : Bytes) : Work (Option Id) := do
  let session ← get
  let inner : Site := ⟨(session.site.outer path).bytes ++ separator :: ownName,
    (session.site.outer path).bytes, [], [], false⟩
  let ((result, _) : Except UInt8 (Option Id) × Session) :=
    (headId?.run).run { session with site := inner }
  return result.toOption.bind id

/-- What was found at a path as it is tracked; its content is kept. -/
def taken (path : Bytes) (found : Found) : Work Leaf := do
  let disk := (← get).view.disk
  match found with
  | .module =>
    match ← moduleHead? path with
    | some id => return ⟨.module, id⟩
    | none =>
      note (Bytes.ofString "error: '" ++ path
        ++ Bytes.ofString "/' does not have a commit checked out\n")
      die (Bytes.ofString "adding files failed")
  | found =>
    let id ← keep (.blob (found.content disk))
    return ⟨found.kind disk, id⟩

/-- What stands in the working tree, by paths. -/
def foundMap : Work (Std.HashMap Bytes Found) := do
  return Std.HashMap.ofList (← found)

/-- A link stands on the way to a path. -/
def isBeyondLink (path : Bytes) : Work Bool := do
  let session ← get
  return (directoriesOf path).any fun directory =>
    match session.view.linkStat (session.site.outer directory) with
    | .ok (.link _) => true
    | _ => false

end Work

/-- How what stands in the working tree is taken over. -/
structure Taking where
  /-- Only paths that are tracked already. -/
  onlyTracked : Bool
  /-- Paths that are gone are not tracked any more. -/
  drops : Bool
  isPretended : Bool
  isTold : Bool

namespace Work

/-- Tells what is done with a path. -/
def tell (taking : Taking) (word : String) (path : Bytes) : Work Unit := do
  if taking.isTold || taking.isPretended then
    putLine (Bytes.ofString (word ++ " '") ++ path ++ [ascii '\''])

/-- Takes over what stands in the working tree within some scopes. -/
def takeOver (taking : Taking) (scopes : List Scope) (exclusions : List Exclusion) :
    Work Unit := do
  let before ← staged
  let all ← found
  let known ← foundMap
  let mut next := before
  for (path, leaf) in before.filter fun entry => Scope.admits scopes entry.1 do
    match known[path]? with
    | some found =>
      let now ←
        match found, leaf.kind with
        | .module, .module =>
          pure (((← moduleHead? path).map (Leaf.mk .module)).getD leaf)
        | found, _ => taken path found
      if now ≠ leaf then
        tell taking "add" path
        next := next.insert path now
    | none =>
      if taking.drops then
        tell taking "remove" path
        next := next.erase path
  if !taking.onlyTracked then
    let tracked : Std.HashMap Bytes Leaf := Std.HashMap.ofList before
    for (path, found) in all do
      if !tracked.contains path && Scope.admits scopes path
          && !Exclusion.excludes exclusions path (found = .module) then
        let leaf ← taken path found
        tell taking "add" path
        next := next.insert path leaf
  if !taking.isPretended && next ≠ before then
    setStaged next

/-- The first path that is left out and that a scope asks for. -/
def leftOut? (exclusions : List Exclusion) (path : Bytes) (isDirectory : Bool) : Option Bytes :=
  match (directoriesOf path).find? fun directory =>
    Exclusion.excludes exclusions directory true with
  | some directory => some directory
  | none => if Exclusion.excludes exclusions path isDirectory then some path else none

def addForms : List Form :=
  [toggle "A" ["all", "no-ignore-removal"], toggle "u" ["update"], toggle "f" ["force"],
    toggle "n" ["dry-run"], toggle "v" ["verbose"], toggle "N" ["intent-to-add"],
    toggle "errors" ["ignore-errors"], toggle "missing" ["ignore-missing"],
    toggle "keep" ["ignore-removal", "no-all"], toggle "refresh" ["refresh"],
    toggle "p" ["patch"], toggle "i" ["interactive"], toggle "sparse" ["sparse"],
    setting "chmod" ["chmod"], toggle "renormalize" ["renormalize"]]

/-- Checks that every scope means something; the paths that are left out although they are asked
for. -/
def checkScopes (scopes : List Scope) (exclusions : List Exclusion) : Work (List Bytes) := do
  let session ← get
  let index ← staged
  let all ← found
  let mut refused : List Bytes := []
  for scope in scopes do
    if scope.path ≠ [] && !scope.isExcluded then
      if ← isBeyondLink scope.path then
        die (Bytes.ofString "pathspec '" ++ scope.text
          ++ Bytes.ofString "' is beyond a symbolic link")
      let isMet := index.any (fun entry => scope.meets entry.1) || all.any fun (path, found) =>
        scope.meets path && !Exclusion.excludes exclusions path (found = .module)
      if !isMet then
        match session.view.linkStat (session.site.outer scope.path) with
        | .error _ =>
          die (Bytes.ofString "pathspec '" ++ scope.text
            ++ Bytes.ofString "' did not match any files")
        | .ok node =>
          let isDirectory := match node with
            | .directory .. => true
            | _ => false
          refused := refused ++ (leftOut? exclusions scope.path isDirectory).toList
      else
        match session.view.linkStat (session.site.outer scope.path) with
        | .ok (.file _) | .ok (.link _) =>
          if (index.find? scope.path).isNone then
            refused := refused ++ (leftOut? exclusions scope.path false).toList
        | _ => pure ()
  return refused.eraseDups

/-- Stages what stands in the working tree. -/
def add (arguments : List Bytes) : Work Unit := do
  let given ← options addForms arguments
  let isWhole := given.has "A" || given.has "u" || given.has "renormalize"
  if given.operands = [] && !isWhole then
    note (Bytes.ofString ("Nothing specified, nothing added.\n"
      ++ "hint: Maybe you wanted to say 'git add .'?\n"
      ++ "hint: Turn this message off by running\n"
      ++ "hint: \"git config advice.addEmptyPathspec false\"\n"))
  else if given.has "A" && given.has "u" then
    die (Bytes.ofString "options '-A' and '-u' cannot be used together")
  else
    let scopes ← scopes given.operands
    let exclusions ← if given.has "f" then pure [] else exclusions
    let onlyTracked := given.has "u" && !given.has "A"
    let refused ← if onlyTracked then pure [] else checkScopes scopes exclusions
    let taking : Taking :=
      ⟨onlyTracked, !given.has "keep", given.has "n", given.has "v"⟩
    takeOver taking scopes exclusions
    if refused ≠ [] then
      note (Bytes.ofString "The following paths are ignored by one of your .gitignore files:\n"
        ++ refused.flatMap (· ++ [0x0A])
        ++ Bytes.ofString "hint: Use -f if you really want to add them.\n")
      stop 1

/-- Takes a path of the working tree away, with the directories that are empty then. -/
def eraseOuter (path : Bytes) : Work Unit := do
  let site ← site
  let _ ← change fun view => view.unlink (site.outer path)
  for directory in (directoriesOf path).reverse do
    if !(directory ++ [separator]).isPrefixOf site.inner then
      let _ ← change fun view => view.removeDirectory (site.outer directory)

def removeForms : List Form :=
  [toggle "r", toggle "f" ["force"], toggle "q" ["quiet"], toggle "cached" ["cached"],
    toggle "n" ["dry-run"], toggle "unmatched" ["ignore-unmatch"], toggle "sparse" ["sparse"]]

/-- A complaint about paths that are not removed. -/
def refuseRemoval (paths : List Bytes) (one several hint : String) : Work Unit := do
  if paths ≠ [] then
    note (Bytes.ofString ("error: " ++ (if paths.length = 1 then one else several) ++ "\n")
      ++ paths.flatMap (fun path => Bytes.ofString "    " ++ path ++ [0x0A])
      ++ Bytes.ofString (hint ++ "\n"))

/-- Refuses to remove what would be lost: what is staged or stands in the tree and nowhere else. -/
def checkRemoval (paths : List Bytes) (isCached : Bool) : Work Unit := do
  let session ← get
  let committed ← headSnapshot
  let index ← staged
  let known ← foundMap
  let standing : List (Bytes × Bool × Bool) := paths.filterMap fun path => do
    let found ← known[path]?
    let leaf ← index.find? path
    let isLocal : Bool := leaf.kind ≠ .module && found.leaf session.view.disk ≠ leaf
    let isStaged : Bool := committed.find? path ≠ some leaf
    return (path, isLocal, isStaged)
  let both := (standing.filter fun entry => entry.2.1 && entry.2.2).map Prod.fst
  let staged := (standing.filter fun entry => !entry.2.1 && entry.2.2 && !isCached).map Prod.fst
  let changed := (standing.filter fun entry => entry.2.1 && !entry.2.2 && !isCached).map Prod.fst
  refuseRemoval both
    "the following file has staged content different from both the\nfile and the HEAD:"
    "the following files have staged content different from both the\nfile and the HEAD:"
    "(use -f to force removal)"
  refuseRemoval staged "the following file has changes staged in the index:"
    "the following files have changes staged in the index:"
    "(use --cached to keep the file, or -f to force removal)"
  refuseRemoval changed "the following file has local modifications:"
    "the following files have local modifications:"
    "(use --cached to keep the file, or -f to force removal)"
  if both ++ staged ++ changed ≠ [] then
    stop 1

/-- Stops tracking paths and takes them out of the working tree. -/
def remove (arguments : List Bytes) : Work Unit := do
  let given ← options removeForms arguments
  if given.operands = [] then
    die (Bytes.ofString "No pathspec was given. Which files should I remove?")
  let scopes ← scopes given.operands
  let index ← staged
  for scope in scopes do
    let met := index.filter fun entry => scope.meets entry.1
    if met.isEmpty && !given.has "unmatched" && !scope.isExcluded then
      die (Bytes.ofString "pathspec '" ++ scope.text
        ++ Bytes.ofString "' did not match any files")
    let isDeep := met.any fun entry =>
      entry.1 ≠ scope.path && !scope.pattern?.any fun pattern => Glob.accepts pattern entry.1
    if isDeep && !given.has "r" then
      let shown := if scope.path = [] then [ascii '.'] else scope.text
      die (Bytes.ofString "not removing '" ++ shown
        ++ Bytes.ofString "' recursively without -r")
  let paths := (index.filter fun entry => Scope.admits scopes entry.1).map Prod.fst
  if !given.has "f" then
    checkRemoval paths (given.has "cached")
  if !given.has "q" then
    for path in paths do
      putLine (Bytes.ofString "rm '" ++ path ++ [ascii '\''])
  if !given.has "n" then
    if !given.has "cached" then
      for path in paths do
        eraseOuter path
    setStaged (paths.foldl Snapshot.erase index)

def moveForms : List Form :=
  [toggle "f" ["force"], toggle "k", toggle "n" ["dry-run"], toggle "v" ["verbose"],
    toggle "sparse" ["sparse"]]

/-- A path of the working tree that is moved, and where it goes. -/
structure Removal where
  source : Bytes
  target : Bytes

/-- Why a path cannot be moved. -/
def moveFault? (index : Snapshot) (targets : List Bytes) (isForced : Bool) (removal : Removal) :
    Work (Option String) := do
  let session ← get
  let source := removal.source
  let target := removal.target
  let isTracked := (index.find? source).isSome
  let isBelow := index.any fun entry => (source ++ [separator]).isPrefixOf entry.1
  match session.view.linkStat (session.site.outer source) with
  | .error _ => return some "bad source"
  | .ok node =>
    let isDirectory := match node with
      | .directory .. => true
      | _ => false
    if isDirectory && (source ++ [separator]).isPrefixOf (target ++ [separator]) then
      return some "can not move directory into itself"
    else if isDirectory && !isBelow then return some "source directory is empty"
    else if !isDirectory && !isTracked then return some "not under version control"
    else
      let targetNode := (session.view.linkStat (session.site.outer target)).toOption
      let targetIsDirectory := match targetNode with
        | some (.directory ..) => true
        | _ => false
      if isDirectory && targetNode.isSome then return some "destination already exists"
      else if targetNode.isSome && (!isForced || targetIsDirectory) then
        return some "destination exists"
      else if targets.contains target then return some "multiple sources for the same target"
      else return none

/-- Moves tracked paths. -/
def move (arguments : List Bytes) : Work Unit := do
  let given ← options moveForms arguments
  let session ← get
  match given.operands.reverse with
  | target :: first :: others =>
    let sources := (first :: others).reverse
    let target' ← Scope.ofArgument target
    let index ← staged
    let isDirectory := target'.path = []
      || session.view.isDirectory (session.site.outer target'.path)
    if !isDirectory && 1 < sources.length then
      die (Bytes.ofString "destination '" ++ target ++ Bytes.ofString "' is not a directory")
    let mut removals : List Removal := []
    for source in sources do
      let source ← Scope.ofArgument source
      let last := (source.path.reverse.takeWhile (· ≠ separator)).reverse
      let full :=
        if !isDirectory then target'.path
        else if target'.path = [] then last
        else target'.path ++ separator :: last
      let removal : Removal := ⟨source.path, full⟩
      let told := Bytes.ofString ", source=" ++ removal.source
        ++ Bytes.ofString ", destination=" ++ removal.target
      let fault? ←
        if !isDirectory && target.getLast? = some separator
            && !session.view.isDirectory (session.site.outer source.path) then
          pure (some "destination directory does not exist")
        else
          let targets := removals.map Removal.target
          moveFault? index targets (given.has "f") removal
      if given.has "n" then
        put (Bytes.ofString "Checking rename of '" ++ removal.source ++ Bytes.ofString "' to '"
          ++ removal.target ++ Bytes.ofString "'\n")
      match fault? with
      | some fault =>
        if !given.has "k" then die (Bytes.ofString fault ++ told)
      | none => removals := removals ++ [removal]
    let mut next := index
    for removal in removals do
      if given.has "n" || given.has "v" then
        put (Bytes.ofString "Renaming " ++ removal.source ++ Bytes.ofString " to "
          ++ removal.target ++ [0x0A])
      if !given.has "n" then
        match ← change fun view =>
            view.rename (session.site.outer removal.source) (session.site.outer removal.target) with
        | .ok () => pure ()
        | .error fault =>
          die (Bytes.ofString "renaming '" ++ removal.source ++ Bytes.ofString "' failed: "
            ++ Bytes.ofString fault.reason)
        let moved := next.filter fun entry => Scope.covers removal.source entry.1
        let kept := next.filter fun entry => !Scope.covers removal.source entry.1
        next := moved.foldl
          (fun kept (path, leaf) =>
            Snapshot.insert kept (removal.target ++ path.drop removal.source.length) leaf) kept
    if !given.has "n" then
      setStaged next
  | _ => misused (Bytes.ofString "usage: git mv [<options>] <source>... <destination>")

end Work

end ChangelogSql.Repository
