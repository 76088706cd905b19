import ChangelogSql.Repository.Recording
import ChangelogSql.Repository.Selection

/-!
Branches, marks and other references: listing them, making them and taking them
away.
-/

namespace ChangelogSql.Repository

open Text (ascii)
open Files
open Utility (Form Given toggle setting)

namespace Work

/-- A reference with what it leads to. -/
structure Pointer where
  name : Bytes
  id : Id

/-- What a field of a form stands for. -/
def field? (pointer : Pointer) (name : Bytes) : Work (Option Bytes) := do
  let session ← get
  let text := Bytes.shown name
  let parts := text.splitOn ":"
  let (isPeeled, key) :=
    match parts.head? with
    | some key => if key.startsWith "*" then (true, (key.drop 1).toString) else (false, key)
    | none => (false, "")
  let detail := Bytes.ofString (":".intercalate (parts.drop 1))
  let object? := object? session pointer.id
  let id :=
    if !isPeeled then pointer.id
    else
      match object? with
      | some (.mark mark) => mark.target
      | _ => []
  let object? := Work.object? session id
  let commit? :=
    match object? with
    | some (.commit commit) => some commit
    | _ => none
  let message : Bytes :=
    match object? with
    | some (.commit commit) => commit.message
    | some (.mark mark) => mark.message
    | _ => []
  let told : Commit := ⟨[], [], ⟨[], [], 0, []⟩, ⟨[], [], 0, []⟩, message⟩
  let now ← now
  let date (signature? : Option Signature) : Bytes :=
    match signature? with
    | some signature =>
      ((DateForm.ofBytes? detail).getD .plain).shown now signature
    | none => []
  let author? := commit?.map Commit.author
  let committer? := commit?.map Commit.committer
  let tagger? :=
    match object? with
    | some (.mark mark) => some mark.tagger
    | _ => none
  let angled (signature : Signature) : Bytes :=
    ascii '<' :: signature.address ++ [ascii '>']
  let isShort := detail = Bytes.ofString "short"
  match key with
  | "refname" => return some (if isShort then shortName pointer.name else pointer.name)
  | "objectname" => return some (if isShort then short id else id)
  | "objecttype" => return some (Bytes.ofString ((object?.map Object.word).getD ""))
  | "objectsize" => return some (Text.Ascii.ofNat ((object?.map fun o => o.body.length).getD 0))
  | "tree" => return some ((commit?.map Commit.tree).getD [])
  | "parent" => return some (Text.joinWith 0x20 ((commit?.map Commit.parents).getD []))
  | "numparent" => return some (Text.Ascii.ofNat ((commit?.map fun c => c.parents.length).getD 0))
  | "subject" => return some told.subject
  | "body" => return some told.body
  | "contents" =>
    return some (if detail = Bytes.ofString "subject" then told.subject
      else if detail = Bytes.ofString "body" then told.body else message)
  | "authorname" => return some ((author?.map Signature.name).getD [])
  | "authoremail" => return some ((author?.map angled).getD [])
  | "authordate" => return some (date author?)
  | "committername" => return some ((committer?.map Signature.name).getD [])
  | "committeremail" => return some ((committer?.map angled).getD [])
  | "committerdate" => return some (date committer?)
  | "taggername" => return some ((tagger?.map Signature.name).getD [])
  | "taggeremail" => return some ((tagger?.map angled).getD [])
  | "taggerdate" => return some (date tagger?)
  | "creatordate" => return some (date (committer?.or tagger?))
  | "upstream" | "push" | "symref" | "worktreepath" => return some []
  | "HEAD" =>
    let isHead := (← head) = .reference pointer.name
    return some [if isHead then ascii '*' else 0x20]
  | _ => return none

/-- A form filled in for a reference. `fuel` bounds how many fields there are. -/
def filledFor (pointer : Pointer) : Nat → Bytes → Work Bytes
  | 0, _ => return []
  | _, [] => return []
  | fuel + 1, b :: rest => do
    if b ≠ ascii '%' then return b :: (← filledFor pointer fuel rest)
    else
      match rest with
      | 0x25 :: rest => return b :: (← filledFor pointer fuel rest)
      | 0x28 :: more =>
        let name := more.takeWhile (· ≠ 0x29)
        match ← field? pointer name with
        | some value => return value ++ (← filledFor pointer fuel (more.drop (name.length + 1)))
        | none => die (Bytes.ofString "unknown field name: " ++ name)
      | high :: low :: more =>
        match Text.Ascii.hexDigit? high, Text.Ascii.hexDigit? low with
        | some high, some low =>
          return UInt8.ofNat (16 * high + low) :: (← filledFor pointer fuel more)
        | _, _ => return b :: (← filledFor pointer fuel rest)
      | rest => return b :: (← filledFor pointer fuel rest)

/-- The options that choose among references. -/
def chooseForms : List Form :=
  [setting "sort" ["sort"], setting "format" ["format"], setting "contains" ["contains"],
    setting "lacking" ["no-contains"], ⟨"merged", ["merged"], .perhaps⟩,
    ⟨"unmerged", ["no-merged"], .perhaps⟩, setting "points" ["points-at"],
    setting "count" ["count"], toggle "i" ["ignore-case"], ⟨"column", ["column"], .perhaps⟩,
    ⟨"color", ["color"], .perhaps⟩, toggle "plain" ["no-color", "no-column"]]

/-- One commit is another or one from which it came. -/
def isAncestor (old new : Named) : Work Bool := do
  return (← history false [new] []).any fun named => named.1 = old.1

/-- A reference is chosen by the options. -/
def isChosen (given : Given) (pointer : Pointer) : Work Bool := do
  match ← commitOf? pointer.id with
  | none => return !(given.has "contains" || given.has "merged" || given.has "unmerged")
  | some named =>
    let holds (key : String) (test : Named → Work Bool) : Work Bool := do
      if !given.has key then return true
      else test (← commitNamed ((given.value? key).getD (Bytes.ofString "HEAD")))
    let contains ← holds "contains" fun other => isAncestor other named
    let lacks ← holds "lacking" fun other => do return !(← isAncestor other named)
    let merged ← holds "merged" fun other => isAncestor named other
    let unmerged ← holds "unmerged" fun other => do return !(← isAncestor named other)
    let points ←
      match given.value? "points" with
      | some text =>
        let id ← meant text
        pure (id = pointer.id || id = named.1)
      | none => pure true
    return contains && lacks && merged && unmerged && points

/-- Refuses options that choose by something that is not known. -/
def refuseUnknownChoice (given : Given) : Work Unit := do
  let refuse (code : UInt8) (key : String) : Work Unit := do
    if given.has key then
      let text := (given.value? key).getD (Bytes.ofString "HEAD")
      if (← meant? text).isNone then
        fail code (Bytes.ofString "malformed object name " ++ text)
  refuse 129 "contains"
  refuse 129 "lacking"
  refuse 128 "merged"
  refuse 128 "unmerged"
  refuse 129 "points"

/-- References in the order that is asked for. -/
def inOrder (given : Given) (pointers : List Pointer) : Work (List Pointer) := do
  match given.value? "sort" with
  | none => return pointers
  | some key =>
    let isBackward := key.head? = some (ascii '-')
    let key := if isBackward then key.drop 1 else key
    let name := Bytes.shown key
    let isNumeric := name.endsWith "date" || name = "objectsize"
    let isVersion := name.startsWith "version:" || name.startsWith "v:"
    let keyed ← pointers.mapM fun pointer => do
      let value : Bytes ←
        if isVersion then pure pointer.name
        else if isNumeric && name ≠ "objectsize" then
          do pure (((← field? pointer (key ++ Bytes.ofString ":unix"))).getD [])
        else do pure ((← field? pointer key).getD [])
      pure (value, pointer)
    let number (value : Bytes) : Int := (Text.Ascii.integer? value).getD 0
    let le (a b : Bytes) : Bool := if isNumeric then number a ≤ number b else a ≤ b
    let ordered := keyed.mergeSort fun a b => if isBackward then le b.1 a.1 else le a.1 b.1
    return ordered.map Prod.snd

/-- The references that options and patterns choose. -/
def chosenReferences (given : Given) (start : String) (patterns : List Bytes) :
    Work (List Pointer) := do
  refuseUnknownChoice given
  let all := (← references start).map fun (name, id) => Pointer.mk name id
  let meets (pointer : Pointer) : Bool :=
    patterns = [] || patterns.any fun pattern =>
      let name := if start = "refs/" then pointer.name else shortName pointer.name
      Glob.accepts (Glob.ofBytes (start ≠ "refs/") pattern) name
        || (start = "refs/" && (pattern = name || (pattern ++ [separator]).isPrefixOf name
          || ((pattern.reverse.dropWhile (· = separator)).reverse ++ [separator]).isPrefixOf name))
  inOrder given (← (all.filter meets).filterM (isChosen given))

/-- Tells the references that options choose. -/
def tellChosen (arguments : List Bytes) : Work Unit := do
  let given ← options (chooseForms ++ [toggle "shell" ["s", "shell", "perl"]]) arguments
  let plain := Bytes.ofString "%(objectname) %(objecttype)\t%(refname)"
  let form := (given.value? "format").getD plain
  let found ← chosenReferences given "refs/" given.operands
  let found :=
    match (given.value? "count").bind Text.Ascii.decimal? with
    | some count => found.take count
    | none => found
  for pointer in found do
    putLine (← filledFor pointer (form.length + 1) form)

def branchForms : List Form :=
  chooseForms ++ [toggle "a" ["all"], toggle "r" ["remotes"], toggle "d" ["delete"], toggle "D",
    toggle "m" ["move"], toggle "M", toggle "c" ["copy"], toggle "C", toggle "f" ["force"],
    toggle "v" ["verbose"], toggle "q" ["quiet"], toggle "l" ["list"],
    toggle "current" ["show-current"], ⟨"t", ["track"], .perhaps⟩, toggle "free" ["no-track"],
    setting "u" ["set-upstream-to"], ⟨"abbrev", ["abbrev"], .perhaps⟩,
    toggle "unset" ["unset-upstream"], toggle "described" ["edit-description"]]

/-- The name of a branch as a reference. -/
def branchName (name : Bytes) : Bytes := Bytes.ofString "refs/heads/" ++ name

/-- The name of the branch that the head leads to. -/
def currentBranch? : Work (Option Bytes) := do
  match ← head with
  | .reference name => return some name
  | .detached _ => return none

/-- Takes a reference away, with what has become of it. -/
def eraseReference (reference : Bytes) : Work Unit := do
  eraseOwn reference
  eraseOwn (journalName reference)
  let site ← site
  for directory in (directoriesOf reference).reverse do
    if 2 ≤ directory.count separator then
      let _ ← change fun view => view.removeDirectory (site.path directory)

/-- Takes branches away. -/
def dropBranches (isForced isQuiet : Bool) (names : List Bytes) : Work Unit := do
  if names = [] then die (Bytes.ofString "branch name required")
  let mut failed := false
  for name in names do
    let reference := branchName name
    match ← reference? reference with
    | none =>
      note (Bytes.ofString "error: branch '" ++ name ++ Bytes.ofString "' not found.\n")
      failed := true
    | some id =>
      if (← currentBranch?) = some reference then
        note (Bytes.ofString "error: Cannot delete branch '" ++ name
          ++ Bytes.ofString "' checked out at '" ++ (← site).top ++ Bytes.ofString "'\n")
        failed := true
      else
        let isMerged ←
          match ← commitOf? id, ← headId? with
          | some named, some headId =>
            match ← commitOf? headId with
            | some head => isAncestor named head
            | none => pure false
          | _, _ => pure false
        if !isMerged && !isForced then
          note (Bytes.ofString "error: The branch '" ++ name
            ++ Bytes.ofString "' is not fully merged.\nIf you are sure you want to delete it, run '"
            ++ Bytes.ofString "git branch -D " ++ name ++ Bytes.ofString "'.\n")
          failed := true
        else
          eraseReference reference
          if !isQuiet then
            putLine (Bytes.ofString "Deleted branch " ++ name ++ Bytes.ofString " (was " ++ short id
              ++ Bytes.ofString ").")
  if failed then stop 1

/-- Refuses a name that no branch can have. -/
def checkBranchName (name : Bytes) : Work Unit := do
  if !isReferenceName name then
    die (ascii '\'' :: name ++ Bytes.ofString "' is not a valid branch name")

/-- Gives a branch another name, or copies it. -/
def renameBranch (isForced isCopy : Bool) (old new : Bytes) : Work Unit := do
  checkBranchName new
  let source := branchName old
  let target := branchName new
  let isCurrent := (← currentBranch?) = some source
  match ← reference? source with
  | none =>
    if isCurrent && !isCopy then
      setOwn (Bytes.ofString "HEAD") (Bytes.ofString "ref: " ++ target ++ [0x0A])
    else die (Bytes.ofString "No branch named '" ++ old ++ Bytes.ofString "'.")
  | some id =>
    if (← reference? target).isSome && !isForced && source ≠ target then
      die (Bytes.ofString "A branch named '" ++ new ++ Bytes.ofString "' already exists.")
    else
      let told ← own? (journalName source)
      if !isCopy then eraseReference source
      setOwn target (id ++ [0x0A])
      match told with
      | some text => setOwn (journalName target) text
      | none => pure ()
      if isCurrent && !isCopy then
        setOwn (Bytes.ofString "HEAD") (Bytes.ofString "ref: " ++ target ++ [0x0A])

/-- Makes a branch. -/
def makeBranch (isForced : Bool) (name start : Bytes) : Work Unit := do
  checkBranchName name
  let reference := branchName name
  if (← reference? reference).isSome && !isForced then
    die (Bytes.ofString "A branch named '" ++ name ++ Bytes.ofString "' already exists.")
  else if isForced && (← currentBranch?) = some reference then
    die (Bytes.ofString "Cannot force update the branch '" ++ name
      ++ Bytes.ofString "' checked out at '" ++ (← site).top ++ [ascii '\''])
  else
    match ← meant? start with
    | none =>
      let shown ←
        match ← head with
        | .reference current => pure (if start = Bytes.ofString "HEAD" then shortName current else start)
        | .detached _ => pure start
      die (Bytes.ofString "not a valid object name: '" ++ shown ++ [ascii '\''])
    | some id =>
      match ← commitOf? id with
      | some (id, _) =>
        setReference reference id (Bytes.ofString "branch: Created from " ++ start)
      | none => die (Bytes.ofString "not a valid branch point: '" ++ start ++ [ascii '\''])

/-- Lists branches, the one that the head leads to behind a sign. -/
def tellBranches (given : Given) : Work Unit := do
  let patterns := if given.has "l" then given.operands else []
  let found ←
    if given.has "r" then pure [] else chosenReferences given "refs/heads/" patterns
  let far ←
    if given.has "r" || given.has "a" then chosenReferences given "refs/remotes/" patterns
    else pure []
  let current? ← currentBranch?
  match given.value? "format" with
  | some form =>
    for pointer in found ++ far do
      putLine (← filledFor pointer (form.length + 1) form)
  | none =>
    let detached? ←
      match ← head with
      | .detached id => do
        pure (some (ascii '(' :: (← detachedName id) ++ [ascii ')'], id))
      | .reference _ => pure none
    let detached := if patterns = [] && !given.has "r" then detached?.toList else []
    let named := found.map fun pointer => (shortName pointer.name, pointer.id, pointer.name)
    let others := far.map fun pointer =>
      let short := shortName pointer.name
      (if given.has "a" then Bytes.ofString "remotes/" ++ short else short, pointer.id, pointer.name)
    let lines := detached.map (fun (text, id) => (text, id, Bytes.ofString "HEAD"))
      ++ named ++ others
    let width := lines.foldl (fun most line => max most line.1.length) 0
    for (text, id, name) in lines do
      let isCurrent := some name = current? || name = Bytes.ofString "HEAD"
      let front := Bytes.ofString (if isCurrent then "* " else "  ")
      if given.has "v" then
        let subject := ((← commitOf? id).map fun named => named.2.subject).getD []
        putLine (front ++ Patch.padded width text ++ 0x20 :: short id ++ 0x20 :: subject)
      else putLine (front ++ text)

/-- Lists branches, makes them, gives them other names or takes them away. -/
def branch (arguments : List Bytes) : Work Unit := do
  let given ← options branchForms arguments
  let current := ((← currentBranch?).map shortName).getD (Bytes.ofString "HEAD")
  if given.has "current" then
    match ← currentBranch? with
    | some name => putLine (shortName name)
    | none => pure ()
  else if given.has "d" || given.has "D" then
    dropBranches (given.has "D" || given.has "f") (given.has "q") given.operands
  else if given.has "m" || given.has "M" || given.has "c" || given.has "C" then
    let isForced := given.has "M" || given.has "C" || given.has "f"
    let isCopy := given.has "c" || given.has "C"
    match given.operands with
    | [new] => renameBranch isForced isCopy current new
    | [old, new] => renameBranch isForced isCopy old new
    | _ => die (Bytes.ofString "branch name required")
  else
    let lists := given.has "l" || given.has "a" || given.has "r" || given.has "contains"
      || given.has "merged" || given.has "unmerged" || given.has "points" || given.has "lacking"
    match lists, given.operands with
    | true, _ | false, [] => tellBranches given
    | false, [name] => makeBranch (given.has "f") name (Bytes.ofString "HEAD")
    | false, [name, start] => makeBranch (given.has "f") name start
    | false, _ => misused (Bytes.ofString "usage: git branch [<options>] <branch> [<start>]")

def markForms : List Form :=
  chooseForms ++ [toggle "a" ["annotate"], setting "m" ["message"], setting "F" ["file"],
    toggle "d" ["delete"], toggle "f" ["force"], toggle "l" ["list"], ⟨"n", [], .perhaps⟩,
    toggle "s" ["sign"], toggle "v" ["verify"], toggle "journaled" ["create-reflog"],
    setting "cleanup" ["cleanup"]]

/-- Lists marks, with the beginnings of their messages if that is asked for. -/
def tellMarks (given : Given) : Work Unit := do
  let session ← get
  let found ← chosenReferences given "refs/tags/" given.operands
  for pointer in found do
    match given.value? "format" with
    | some form => putLine (← filledFor pointer (form.length + 1) form)
    | none =>
      let name := shortName pointer.name
      if given.has "n" then
        let count := (((given.value? "n").bind Text.Ascii.decimal?).getD 1)
        let message : Bytes :=
          match object? session pointer.id with
          | some (.mark mark) => mark.message
          | some (.commit commit) => commit.message
          | _ => []
        let lines := (Text.splitAt 0x0A message).take count
        putLine (Patch.padded 15 name ++ 0x20 :: Text.joinWith 0x0A
          (lines.zipIdx.map fun (line, index) =>
            if index = 0 then line else Bytes.ofString "    " ++ line))
      else putLine name

/-- Makes a mark. -/
def makeMark (given : Given) (name target : Bytes) : Work Unit := do
  let reference := Bytes.ofString "refs/tags/" ++ name
  if !isReferenceName name then
    die (ascii '\'' :: name ++ Bytes.ofString "' is not a valid tag name.")
  let id ←
    match ← meant? target with
    | some id => pure id
    | none =>
      die (Bytes.ofString "Failed to resolve '" ++ target ++ Bytes.ofString "' as a valid ref.")
  let before? ← reference? reference
  if before?.isSome && !given.has "f" then
    die (Bytes.ofString "tag '" ++ name ++ Bytes.ofString "' already exists")
  let paragraphs := valuesOf given "m"
  let isTold := given.has "a" || given.has "s" || paragraphs ≠ [] || given.has "F"
  let id ←
    if !isTold then pure id
    else
      let text ←
        match given.value? "F" with
        | some path => fileOrInput path
        | none =>
          if paragraphs = [] then
            note (Bytes.ofString ("error: Terminal is dumb, but EDITOR unset\n"
              ++ "Please supply the message using either -m or -F option.\n"))
            stop 1
          else pure (Message.joined paragraphs)
      let word := ((object? (← get) id).map Object.word).getD "commit"
      let tagger ← signature "COMMITTER"
      keep (.mark ⟨id, Bytes.ofString word, name, tagger, Message.cleaned false text⟩)
  setReference reference id []
  match before? with
  | some before =>
    if before ≠ id then
      putLine (Bytes.ofString "Updated tag '" ++ name ++ Bytes.ofString "' (was " ++ short before
        ++ [ascii ')'])
  | none => pure ()

/-- Takes marks away. -/
def dropMarks (names : List Bytes) : Work Unit := do
  let mut failed := false
  for name in names do
    let reference := Bytes.ofString "refs/tags/" ++ name
    match ← reference? reference with
    | none =>
      note (Bytes.ofString "error: tag '" ++ name ++ Bytes.ofString "' not found.\n")
      failed := true
    | some id =>
      eraseReference reference
      putLine (Bytes.ofString "Deleted tag '" ++ name ++ Bytes.ofString "' (was " ++ short id
        ++ [ascii ')'])
  if failed then stop 1

/-- Lists marks, makes them or takes them away. -/
def mark (arguments : List Bytes) : Work Unit := do
  let given ← options markForms arguments
  let lists := given.has "l" || given.has "n" || given.has "contains" || given.has "merged"
    || given.has "points" || given.has "unmerged"
  if given.has "d" then dropMarks given.operands
  else
    match lists, given.operands with
    | true, _ | false, [] => tellMarks given
    | false, [name] => makeMark given name (Bytes.ofString "HEAD")
    | false, [name, target] => makeMark given name target
    | false, _ => die (Bytes.ofString "too many arguments")

/-- Tells or changes what a reference stands for that leads to another one. -/
def symbolic (arguments : List Bytes) : Work Unit := do
  let given ← options [toggle "q" ["quiet"], toggle "short" ["short"], toggle "d" ["delete"],
    setting "m", toggle "all" ["recurse", "no-recurse"]] arguments
  match given.operands with
  | [name] =>
    let text := trimmed ((← own? name).getD [])
    match Text.afterBlock? (Bytes.ofString "ref: ") text with
    | some target =>
      if given.has "d" then eraseOwn name
      else putLine (if given.has "short" then shortName target else target)
    | none =>
      if given.has "q" then stop 1
      else die (Bytes.ofString "ref " ++ name ++ Bytes.ofString " is not a symbolic ref")
  | [name, target] =>
    if name = Bytes.ofString "HEAD" && !(Bytes.ofString "refs/").isPrefixOf target then
      die (Bytes.ofString "Refusing to point HEAD outside of refs/")
    else setOwn name (Bytes.ofString "ref: " ++ target ++ [0x0A])
  | _ => misused (Bytes.ofString "usage: git symbolic-ref [<options>] <name> [<ref>]")

/-- Lists references with what they lead to. -/
def tellPointers (arguments : List Bytes) : Work Unit := do
  let given ← options [toggle "head" ["head"], toggle "heads" ["heads", "branches"],
    toggle "tags" ["tags"], toggle "d" ["dereference"], ⟨"s", ["hash"], .perhaps⟩,
    toggle "verify" ["verify"], toggle "q" ["quiet"], toggle "exists" ["exists"],
    ⟨"abbrev", ["abbrev"], .perhaps⟩] arguments
  let session ← get
  let all ←
    if given.has "heads" || given.has "tags" then
      let heads ← if given.has "heads" then references "refs/heads/" else pure []
      let tags ← if given.has "tags" then references "refs/tags/" else pure []
      pure (heads ++ tags)
    else references "refs/"
  let heads ←
    if given.has "head" || given.has "verify" then
      do pure (((← headId?).map fun id => (Bytes.ofString "HEAD", id)).toList)
    else pure []
  let meets (name : Bytes) : Bool :=
    given.operands = [] || given.operands.any fun pattern =>
      if given.has "verify" then name = pattern
      else name = pattern || (separator :: pattern).isSuffixOf name
  let found := (heads.filter fun entry => !given.has "verify" || meets entry.1)
    ++ all.filter fun entry => meets entry.1
  if found.isEmpty then
    if given.has "verify" && !given.has "q" then
      die (ascii '\'' :: (given.operands.head?.getD []) ++ Bytes.ofString "' - not a valid ref")
    else stop 1
  else if !given.has "q" then
    for (name, id) in found do
      let digits := ((given.value? "s").bind Text.Ascii.decimal?).getD 40
      if given.has "s" then putLine (id.take digits) else putLine (id ++ 0x20 :: name)
      if given.has "d" then
        match object? session id with
        | some (.mark mark) =>
          putLine (mark.target ++ 0x20 :: name ++ Bytes.ofString "^\x7b\x7d")
        | _ => pure ()

/-- Lets a reference lead elsewhere. -/
def repoint (arguments : List Bytes) : Work Unit := do
  let given ← options [toggle "d", setting "m", toggle "plain" ["no-deref", "create-reflog"],
    toggle "stdin" ["stdin"]] arguments
  let full (name : Bytes) : Work Bytes := do
    match ← head with
    | .reference current => return if name = Bytes.ofString "HEAD" then current else name
    | .detached _ => return name
  match given.has "d", given.operands with
  | true, name :: _ => eraseReference (← full name)
  | false, name :: text :: _ =>
    match ← meant? text with
    | some id => setReference (← full name) id ((given.value? "m").getD [])
    | none => die (text ++ Bytes.ofString ": not a valid SHA1")
  | _, _ => misused (Bytes.ofString "usage: git update-ref [<options>] <refname> <new-oid>")

/-- Tells what two commits both came from. -/
def tellBases (arguments : List Bytes) : Work Unit := do
  let given ← options [toggle "a" ["all"], toggle "ancestor" ["is-ancestor"],
    toggle "plain" ["octopus", "independent", "fork-point"]] arguments
  match given.operands with
  | [first, second] =>
    let old ← commitNamed first
    let new ← commitNamed second
    if given.has "ancestor" then
      if !(← isAncestor old new) then stop 1
    else
      match ← mergeBases old new with
      | [] => stop 1
      | base :: others =>
        for base in if given.has "a" then base :: others else [base] do
          putLine base.1
  | _ => misused (Bytes.ofString "usage: git merge-base [-a | --all] <commit> <commit>...")

/-- Tells the nearest mark behind a commit, and how many commits lie between. -/
def describe (arguments : List Bytes) : Work Unit := do
  let given ← options [toggle "tags" ["tags"], toggle "all" ["all"], toggle "always" ["always"],
    setting "abbrev" ["abbrev"], toggle "exact" ["exact-match"], toggle "long" ["long"],
    ⟨"dirty", ["dirty"], .perhaps⟩, setting "match" ["match"], toggle "first" ["first-parent"],
    setting "candidates" ["candidates"], ⟨"broken", ["broken"], .perhaps⟩] arguments
  let session ← get
  let named ← commitNamed ((given.operands.head?).getD (Bytes.ofString "HEAD"))
  let all ← references "refs/tags/"
  let wanted (entry : Bytes × Id) : Bool :=
    let isTold := match object? session entry.2 with
      | some (.mark _) => true
      | _ => false
    (isTold || given.has "tags" || given.has "all") && (given.value? "match").all fun pattern =>
      Glob.accepts (Glob.ofBytes true pattern) (shortName entry.1)
  let marks := (all.filter wanted).filterMap fun (name, id) =>
    (peeled? session markLimit id).map fun target => (target.1, shortName name)
  let past ← history false [named] []
  let found? := past.findSome? fun other =>
    ((marks.filter fun mark => mark.1 = other.1).getLast?).map fun mark => (other, mark.2)
  let dirty : Bytes ←
    if given.has "dirty" then
      let index ← staged
      let changed := !(← unstagedDeltas index).isEmpty || index ≠ (← headSnapshot)
      pure (if changed then (given.value? "dirty").getD (Bytes.ofString "-dirty") else [])
    else pure []
  let digits := ((given.value? "abbrev").bind Text.Ascii.decimal?).getD 7
  let brief := named.1.take (max 4 digits)
  match found? with
  | some (other, name) =>
    let covered := (← history false [other] []).map Prod.fst
    let depth := (past.filter fun commit => !covered.contains commit.1).length
    if given.has "exact" && depth ≠ 0 then
      die (Bytes.ofString "no tag exactly matches '" ++ named.1 ++ [ascii '\''])
    else if (depth = 0 && !given.has "long") || digits = 0 then putLine (name ++ dirty)
    else
      putLine (name ++ ascii '-' :: Text.Ascii.ofNat depth ++ Bytes.ofString "-g" ++ brief ++ dirty)
  | none =>
    if given.has "always" then putLine (brief ++ dirty)
    else if given.has "exact" then
      die (Bytes.ofString "no tag exactly matches '" ++ named.1 ++ [ascii '\''])
    else die (Bytes.ofString "No names found, cannot describe anything.")

end Work

end ChangelogSql.Repository
