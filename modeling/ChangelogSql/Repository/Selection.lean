import ChangelogSql.Repository.Comparison
import ChangelogSql.Repository.Identity
import ChangelogSql.Utility.Matching

/-!
Which commits are told: those from which some came and others did not, as far as
they changed certain paths and were made by certain people at certain times.
-/

namespace ChangelogSql.Repository

open Text (ascii)
open Files
open Utility (Form Given toggle setting)

/-- Which commits are meant. -/
structure Selection where
  wanted : List Named
  unwanted : List Named
  scopes : List Scope

namespace Work

def selectForms : List Form :=
  [setting "n" ["max-count"], setting "skip" ["skip"], toggle "reverse" ["reverse"],
    toggle "all" ["all"], ⟨"branches", ["branches"], .perhaps⟩, ⟨"tags", ["tags"], .perhaps⟩,
    setting "author" ["author"], setting "committer" ["committer"], setting "grep" ["grep"],
    toggle "i" ["regexp-ignore-case"], toggle "E" ["extended-regexp"],
    toggle "F" ["fixed-strings"], toggle "inverted" ["invert-grep"],
    toggle "every" ["all-match"], setting "since" ["since", "after"],
    setting "until" ["until", "before"], toggle "merges" ["merges"],
    toggle "single" ["no-merges"], setting "least" ["min-parents"],
    setting "most" ["max-parents"], toggle "first" ["first-parent"], toggle "follow" ["follow"],
    toggle "order" ["date-order", "topo-order", "author-date-order", "full-history",
      "simplify-merges", "dense", "sparse", "ancestry-path"], toggle "unwalked" ["no-walk"],
    ⟨"remotes", ["remotes"], .perhaps⟩, toggle "ignored" ["ignore-missing"]]

/-- The commits from which one came immediately. -/
def parentsOf (commit : Commit) : Work (List Named) := do
  let mut parents : List Named := []
  for parent in commit.parents do
    match ← commit? parent with
    | some commit => parents := parents ++ [(parent, commit)]
    | none => pure ()
  return parents

/-- The commits that revisions name, wanted and not wanted. -/
def startsAmong : List Bytes → Work (List Named × List Named)
  | [] => return ([], [])
  | text :: rest => do
    let (wanted, unwanted) ← startsAmong rest
    let isAlone := 2 < text.length && (Bytes.ofString "^!").isSuffixOf text
    match rangeOf? text, Text.afterBlock? [ascii '^'] text with
    | some (first, second, isWide), _ =>
      let old ← commitNamed first
      let new ← commitNamed second
      if isWide then
        let bases ← mergeBases old new
        return (old :: new :: wanted, bases ++ unwanted)
      else return (new :: wanted, old :: unwanted)
    | none, some name => return (wanted, (← commitNamed name) :: unwanted)
    | none, none =>
      if isAlone then
        let named ← commitNamed (text.take (text.length - 2))
        return (named :: wanted, (← parentsOf named.2) ++ unwanted)
      else return ((← commitNamed text) :: wanted, unwanted)

/-- The commits that references lead to. -/
def referencedCommits (start : String) : Work (List Named) := do
  let mut found : List Named := []
  for (_, id) in ← references start do
    match ← commitOf? id with
    | some named => found := found ++ [named]
    | none => pure ()
  return found

/-- The commits that options and operands mean; where they name none, the head is meant. -/
def selection (given : Given) (revisions : List Bytes) (scopes : List Scope) :
    Work Selection := do
  let (wanted, unwanted) ← startsAmong revisions
  let isNamed := given.has "all" || given.has "branches" || given.has "tags"
    || given.has "remotes"
  let branches ←
    if given.has "all" || given.has "branches" then referencedCommits "refs/heads/" else pure []
  let tags ← if given.has "all" || given.has "tags" then referencedCommits "refs/tags/" else pure []
  let others ← if given.has "all" then referencedCommits "refs/" else pure []
  let head? ←
    match ← headId? with
    | some id => commitOf? id
    | none => pure none
  let heads := if given.has "all" then head?.toList else []
  let wanted := wanted ++ heads ++ branches ++ tags ++ others
  if wanted.isEmpty && unwanted.isEmpty && !isNamed then
    match head? with
    | some head => return ⟨[head], [], scopes⟩
    | none =>
      match ← head with
      | .reference name =>
        die (Bytes.ofString "your current branch '" ++ shortName name
          ++ Bytes.ofString "' does not have any commits yet")
      | .detached _ => die (Bytes.ofString "bad default revision 'HEAD'")
  else if wanted.isEmpty && !isNamed then
    return ⟨head?.toList, unwanted, scopes⟩
  else return ⟨wanted, unwanted, scopes⟩

/-- A test whether one of some expressions occurs in a text. -/
def occurrence (given : Given) (texts : List Bytes) : Work (Bytes → Bool) := do
  let form := if given.has "E" then Utility.Expression.extended else Utility.Expression.basic
  let ignoresCase := given.has "i"
  let mut programs : List Utility.Expression.Program := []
  for text in texts do
    let special := Bytes.ofString ".[]*^$\\"
    let text :=
      if given.has "F" then text.flatMap fun b => if special.contains b then [0x5C, b] else [b]
      else text
    match Utility.Expression.compile form ignoresCase true text with
    | .ok program => programs := programs ++ [program]
    | .error _ => die (Bytes.ofString "command line, '" ++ text ++ Bytes.ofString "': bad expression")
  let isEvery := given.has "every"
  let all := programs
  return fun text =>
    if isEvery then all.all fun program => program.occursIn text
    else all.any fun program => program.occursIn text

/-- The seconds that a limit in time says. -/
def limitOf? (given : Given) (key : String) : Work (Option Int) := do
  match given.value? key with
  | some text => return some (← dateGiven text).1
  | none => return none

/-- What a commit changed within some scopes. -/
def deltasWithin (scopes : List Scope) (detectsRenames : Bool) (commit : Commit) :
    Work (List Delta) := do
  let session ← get
  let new ← snapshotOf commit.tree
  let old ←
    match commit.parents with
    | [] => pure []
    | parent :: _ =>
      match ← commit? parent with
      | some parent => snapshotOf parent.tree
      | none => pure []
  return Delta.between (keptContent session) (keptContent session) detectsRenames
    (limited scopes old) (limited scopes new)

/-- A commit differs within some scopes from every commit it came from. -/
def changesWithin (scopes : List Scope) (commit : Commit) : Work Bool := do
  let new := limited scopes (← snapshotOf commit.tree)
  if commit.parents = [] then return !new.isEmpty
  for parent in commit.parents do
    match ← commit? parent with
    | some parent =>
      if limited scopes (← snapshotOf parent.tree) = new then return false
    | none => pure ()
  return true

/-- Commits that changed one path, which may have had other names before. -/
def followed (path : Bytes) : List Named → Work (List (Named × List Delta))
  | [] => return []
  | named :: rest => do
    let deltas ← deltasWithin [] true named.2
    match deltas.find? fun delta => delta.path = path with
    | some delta =>
      let others ← followed delta.oldPath rest
      return (named, [delta]) :: others
    | none => followed path rest

/-- The commits that are meant, the newest first, with what they changed within the scopes. -/
def selected (given : Given) (selection : Selection) (detectsRenames : Bool) :
    Work (List (Named × List Delta)) := do
  let all ←
    if given.has "unwalked" then pure selection.wanted
    else history (given.has "first") selection.wanted selection.unwanted
  let values (key : String) : List Bytes :=
    given.options.filterMap fun (name, value?) => if name = key then value? else none
  let since? ← limitOf? given "since"
  let until? ← limitOf? given "until"
  let byAuthor ← occurrence given (values "author")
  let byCommitter ← occurrence given (values "committer")
  let byMessage ← occurrence given (values "grep")
  let number? (key : String) : Option Nat := (given.value? key).bind Text.Ascii.decimal?
  let least := if given.has "merges" then 2 else (number? "least").getD 0
  let most? := if given.has "single" then some 1 else number? "most"
  let isMeant (named : Named) : Bool :=
    let commit := named.2
    let time := commit.committer.time
    let count := commit.parents.length
    since?.all (· ≤ time) && until?.all (time ≤ ·) && least ≤ count && most?.all (count ≤ ·)
      && (!given.has "author" || byAuthor commit.author.person)
      && (!given.has "committer" || byCommitter commit.committer.person)
      && (!given.has "grep" || byMessage commit.message ≠ given.has "inverted")
  let all := all.filter isMeant
  let found ←
    if given.has "follow" then
      match selection.scopes with
      | [scope] => followed scope.path all
      | _ => die (Bytes.ofString "--follow requires exactly one pathspec")
    else
      let changing ←
        if selection.scopes.isEmpty then pure all
        else all.filterM fun named => changesWithin selection.scopes named.2
      changing.mapM fun named => do
        let deltas ←
          if named.2.parents.length < 2 then deltasWithin selection.scopes detectsRenames named.2
          else pure []
        pure (named, deltas)
  let found := found.drop ((number? "skip").getD 0)
  let found :=
    match (given.value? "n").bind Text.Ascii.integer? with
    | some count => if count < 0 then found else found.take count.natAbs
    | none => found
  return if given.has "reverse" then found.reverse else found

/-- Arguments in their plain form: a number behind a dash is the value of an option, and revisions
that are not wanted have a sign in front. -/
def plainArguments (isNegated : Bool) : List Bytes → List Bytes
  | [] => []
  | argument :: rest =>
    if argument = Bytes.ofString "--not" then plainArguments (!isNegated) rest
    else
      let plain :=
        match argument with
        | 0x2D :: first :: others =>
          if (first :: others).all Text.Ascii.isDigit then Bytes.ofString "-n" ++ first :: others
          else argument
        | argument =>
          if !isNegated then argument
          else (Text.afterBlock? [ascii '^'] argument).getD (ascii '^' :: argument)
      plain :: plainArguments isNegated rest

end Work

end ChangelogSql.Repository
