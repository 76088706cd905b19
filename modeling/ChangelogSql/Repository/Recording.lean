import ChangelogSql.Repository.History
import ChangelogSql.Repository.Journal
import ChangelogSql.Repository.Staging
import ChangelogSql.Repository.Standing

/-!
Recording what is staged as a commit. Nothing is recorded without a change or
without a message, unless that is asked for.
-/

namespace ChangelogSql.Repository

open Text (ascii)
open Files
open Utility (Form Given toggle setting)

namespace Message

/-- Lines without the blank ones in front and behind; of blank lines in a row one is left. `isOpen`
tells that a blank line would come behind another line. -/
def thinned : Bool → List Bytes → List Bytes
  | _, [] => []
  | isOpen, line :: rest =>
    if line = [] then
      let others := thinned false rest
      if isOpen && others ≠ [] then [] :: others else others
    else line :: thinned true rest

/-- A message as it is kept: without blanks at the ends of lines, and with no more blank lines than
are needed. Lines that are marked as remarks can be left out. -/
def cleaned (leavesOut : Bool) (text : Bytes) : Bytes :=
  let isBlank (b : UInt8) : Bool := b = 0x20 || (0x09 ≤ b && b ≤ 0x0D && b ≠ 0x0B && b ≠ 0x0C)
  let lines := (Text.splitAt 0x0A text).map fun line =>
    (line.reverse.dropWhile isBlank).reverse
  let lines := lines.filter fun line => !(leavesOut && line.head? = some (ascii '#'))
  (thinned false lines).flatMap (· ++ [0x0A])

/-- A text with a line end at its end. -/
def ended (text : Bytes) : Bytes :=
  if text = [] || text.getLast? = some 0x0A then text else text ++ [0x0A]

/-- Paragraphs as one text. -/
def joined (paragraphs : List Bytes) : Bytes :=
  paragraphs.foldl
    (fun text paragraph =>
      (if text = [] then [] else text ++ [0x0A]) ++ ended paragraph) []

/-- A message with the line that tells who answers for it. -/
def signedOff (signature : Signature) (text : Bytes) : Bytes :=
  let line := Bytes.ofString "Signed-off-by: " ++ signature.person ++ [0x0A]
  let text := ended text
  let lines := (Text.splitAt 0x0A text).filter (· ≠ [])
  let isTrailer (line : Bytes) : Bool := (Bytes.ofString "Signed-off-by: ").isPrefixOf line
  if lines.getLast? = some line.dropLast then text
  else if lines.getLast?.any isTrailer then text ++ line
  else text ++ 0x0A :: line

end Message

def commitForms : List Form :=
  [setting "m" ["message"], toggle "q" ["quiet"], toggle "a" ["all"], setting "F" ["file"],
    toggle "v" ["verbose"], toggle "amend" ["amend"], toggle "unedited" ["no-edit"],
    toggle "empty" ["allow-empty"], toggle "wordless" ["allow-empty-message"],
    toggle "s" ["signoff"], setting "author" ["author"], setting "date" ["date"],
    setting "C" ["reuse-message"], setting "c" ["reedit-message"], toggle "trial" ["dry-run"],
    toggle "short" ["short"], toggle "porcelain" ["porcelain"], toggle "branch" ["branch"],
    toggle "long" ["long"], toggle "o" ["only"], toggle "i" ["include"],
    toggle "n" ["no-verify"], toggle "e" ["edit"], setting "cleanup" ["cleanup"],
    toggle "reset" ["reset-author"], toggle "status" ["status", "no-status"],
    ⟨"u", ["untracked-files"], .perhaps⟩, toggle "plain" ["no-gpg-sign"],
    setting "t" ["template"], toggle "z" ["null"], ⟨"S", ["gpg-sign"], .perhaps⟩,
    toggle "rewritten" ["no-post-rewrite"], setting "trailer" ["trailer"],
    setting "fixup" ["fixup"], setting "squash" ["squash"]]

namespace Work

/-- The values of an option, in their order. -/
def valuesOf (given : Given) (key : String) : List Bytes :=
  given.options.filterMap fun (name, value?) => if name = key then value? else none

/-- The signature that a text says: a name with an address behind it. -/
def authorOf (text : Bytes) (signature : Signature) : Work Signature := do
  if text.contains (ascii '<') && text.contains (ascii '>') then
    let found := Signature.ofBytes text
    return { signature with name := found.name, address := found.address }
  else
    die (Bytes.ofString "--author '" ++ text
      ++ Bytes.ofString "' is not 'Name <email>' and matches no existing author")

/-- The program with which a message would be written does nothing. -/
def isIdleEditor : Work Bool := do
  let choices := [← setting? "GIT_EDITOR", ← valueOf? "core.editor", ← setting? "VISUAL",
    ← setting? "EDITOR"]
  match firstOf choices with
  | some name => return ["true", ":", "/bin/true", "/usr/bin/true"].contains (Bytes.shown name)
  | none => return false

/-- The commits that are to be joined with what is recorded next. -/
def joining : Work (List Id) := do
  let text := (← own? (Bytes.ofString "MERGE_HEAD")).getD []
  return (Text.splitAt 0x0A text).filter fun line => line.length = 40

/-- What a message consists of, before it is cleaned, and whether somebody has seen it. -/
def draft (given : Given) (before? : Option Commit) : Work Bytes := do
  let paragraphs := valuesOf given "m"
  if paragraphs ≠ [] then return Message.joined paragraphs
  match given.value? "F" with
  | some path => fileOrInput path
  | none =>
    match (given.value? "C").or (given.value? "c") with
    | some text => return (← commitNamed text).2.message
    | none =>
      let prepared? ← own? (Bytes.ofString "MERGE_MSG")
      if given.has "amend" || prepared?.isSome then
        if given.has "unedited" || (← isIdleEditor) then
          let amended := (before?.map Commit.message).getD []
          return if given.has "amend" then amended else prepared?.getD []
      if !(← isIdleEditor) then
        note (Bytes.ofString ("error: Terminal is dumb, but EDITOR unset\n"
          ++ "Please supply the message using either -m or -F option.\n"))
        stop 1
      else return []

/-- Stages what a commit of some paths takes over, and gives what the commit holds. -/
def limitedIndex (given : Given) : Work Snapshot := do
  let paths := given.operands
  if given.has "a" && paths ≠ [] then
    die (Bytes.ofString "paths '" ++ (paths.head?.getD [])
      ++ Bytes.ofString " ...' with -a does not make sense")
  let scopes ← scopes paths
  let before ← staged
  let committed ← headSnapshot
  for scope in scopes do
    if !(before ++ committed).any fun entry => scope.meets entry.1 then
      fail 1 (Bytes.ofString "pathspec '" ++ scope.text
        ++ Bytes.ofString "' did not match any file(s) known to git")
  if paths ≠ [] then
    let missing := committed.filter fun entry =>
      Scope.admits scopes entry.1 && (before.find? entry.1).isNone
    setStaged (missing.foldl (fun kept (path, leaf) => Snapshot.insert kept path leaf) before)
  if given.has "a" || paths ≠ [] then
    takeOver ⟨true, true, false, false⟩ scopes []
  let now ← staged
  if paths = [] || given.has "i" then return now
  else
    let kept := committed.filter fun entry => !Scope.admits scopes entry.1
    let fresh := now.filter fun entry => Scope.admits scopes entry.1
    return fresh.foldl (fun kept (path, leaf) => Snapshot.insert kept path leaf) kept

/-- Tells what was recorded; `isFirst` tells that nothing was recorded before. -/
def tellCommit (id : Id) (commit : Commit) (isFirst showsDate : Bool) : Work Unit := do
  let place :=
    match ← head with
    | .reference name => shortName name
    | .detached _ => Bytes.ofString "detached HEAD"
  let root := if isFirst then Bytes.ofString " (root-commit)" else []
  putLine (ascii '[' :: place ++ root ++ ascii ' ' :: short id ++ Bytes.ofString "] "
    ++ commit.subject)
  if commit.author.person ≠ commit.committer.person then
    putLine (Bytes.ofString " Author: " ++ commit.author.person)
  if showsDate then
    putLine (Bytes.ofString " Date: " ++ DateForm.plain.shown 0 commit.author)
  if commit.parents.length < 2 then
    let deltas ← deltasOf true commit
    put (Patch.sum Patch.Look.plain deltas ++ Patch.summary deltas)

/-- The standing of what would be recorded, beside a commit other than the head where the head is
replaced. -/
def standingBeside (before? : Option Commit) (index : Snapshot) (detail : Detail) :
    Work Standing := do
  let standing ← standingOf index detail false false []
  let committed ←
    match before? with
    | some commit => snapshotOf commit.tree
    | none => pure []
  return { standing with staged := ← stagedDeltas true committed index }

/-- How much is shown of what is not tracked. -/
def detailOf (given : Given) : Work Detail := do
  let byOption : Option Bytes :=
    if given.has "u" then some ((given.value? "u").getD (Bytes.ofString "all")) else none
  let text? := byOption.or (← valueOf? "status.showuntrackedfiles")
  match text?.map Bytes.shown with
  | some "no" | some "false" => return .nothing
  | some "all" | some "true" => return .everything
  | some "normal" | none => return .directories
  | some other =>
    die (Bytes.ofString ("Invalid untracked files mode '" ++ other ++ "'"))

/-- It is only told what would be recorded. -/
def isTrial (given : Given) : Bool :=
  given.has "trial" || given.has "short" || given.has "porcelain"

/-- Records what is staged. -/
def recordStaged (given : Given) : Work Unit := do
  let isAmending := given.has "amend"
  let session ← get
  let headId? ← headId?
  let before? ←
    match headId? with
    | some id => commit? id
    | none => pure none
  if isAmending && before?.isNone then
    die (Bytes.ofString "You have nothing to amend.")
  let joined ← joining
  let parents :=
    if isAmending then (before?.map Commit.parents).getD [] else headId?.toList ++ joined
  let beside? ←
    if isAmending then
      match parents.head? with
      | some parent => commit? parent
      | none => pure none
    else pure before?
  let index ← limitedIndex given
  let tree ← keepTrees index
  let isWhole := !given.has "a" && given.operands = []
  if isWhole && (← own? (Bytes.ofString "index")).isNone then setStaged index
  let committer ← signature "COMMITTER"
  let ownAuthor ← signature "AUTHOR"
  let reused? ←
    match (given.value? "C").or (given.value? "c") with
    | some text => pure (some (← commitNamed text).2)
    | none => pure (if isAmending then before? else none)
  let author :=
    if given.has "reset" then ownAuthor else ((reused?.map Commit.author).getD ownAuthor)
  let author ←
    match given.value? "author" with
    | some text => authorOf text author
    | none => pure author
  let author ←
    match given.value? "date" with
    | some text =>
      let (time, zone) ← dateGiven text
      pure { author with time, zone }
    | none => pure author
  let isTrial := isTrial given
  let text ← if isTrial then pure [] else draft given before?
  let standing ← standingBeside beside? index (← detailOf given)
  let isMerge := 1 < parents.length
  let hasChange := !standing.staged.isEmpty || isMerge
  if isTrial || !(hasChange || given.has "empty") then
    let layout : Standing.Layout := ⟨session.site, given.has "short", false, true⟩
    if given.has "short" || given.has "porcelain" then put (standing.brief layout)
    else
      if !isTrial then setOwn (Bytes.ofString "COMMIT_EDITMSG") (Message.cleaned false text)
      let standing := if beside?.isNone then { standing with headId? := none } else standing
      put (standing.full session.site "Initial commit" isAmending)
    if isAmending && !isTrial then
      note (Bytes.ofString ("You asked to amend the most recent commit, but doing so would make\n"
        ++ "it empty. You can repeat your command with --allow-empty, or you can\n"
        ++ "remove the commit entirely with \"git reset HEAD^\".\n"))
    if !(hasChange && isTrial) then stop 1
  else
    let text := if given.has "s" then Message.signedOff committer text else text
    let message :=
      match (given.value? "cleanup").map Bytes.shown with
      | some "verbatim" => text
      | some "strip" => Message.cleaned true text
      | _ => Message.cleaned false text
    if message = [] && !given.has "wordless" then
      note (Bytes.ofString "Aborting commit due to empty commit message.\n")
      stop 1
    let commit : Commit := ⟨tree, parents, author, committer, message⟩
    let id ← keep (.commit commit)
    let kind :=
      if isAmending then " (amend)"
      else if isMerge then " (merge)"
      else if parents = [] then " (initial)"
      else ""
    advance id (Bytes.ofString ("commit" ++ kind ++ ": ") ++ commit.subject)
    setOwn (Bytes.ofString "COMMIT_EDITMSG") message
    forgetPending
    if !given.has "q" then
      tellCommit id commit headId?.isNone (given.has "date" || isAmending)

/-- Records what is staged, as arguments ask for it. Where nothing is recorded, what is staged stays
as it was. -/
def commit (arguments : List Bytes) : Work Unit := do
  let given ← options commitForms arguments
  let before ← staged
  let restore : Work Unit := do
    if (← staged) ≠ before then setStaged before
  try
    recordStaged given
    if isTrial given then restore
  catch code =>
    restore
    stop code

end Work

end ChangelogSql.Repository
