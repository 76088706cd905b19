import ChangelogSql.Repository.Recording
import ChangelogSql.Repository.Selection

/-!
Looking back: the commits, one after the other or one by itself, with what they
changed, and the state of the working tree.
-/

namespace ChangelogSql.Repository

open Text (ascii)
open Files
open Utility (Form Given toggle setting)

namespace Work

def tellForms : List Form :=
  [⟨"format", ["format", "pretty"], .perhaps⟩, toggle "oneline" ["oneline"],
    setting "date" ["date"], toggle "shortened" ["abbrev-commit"],
    toggle "lengthened" ["no-abbrev-commit"], ⟨"decorated", ["decorate"], .perhaps⟩,
    toggle "undecorated" ["no-decorate"], toggle "graph" ["graph"], toggle "parents" ["parents"],
    toggle "m", toggle "c", toggle "cc" ["cc"], toggle "root" ["root"],
    toggle "source" ["source"], setting "encoding" ["encoding"],
    toggle "signature" ["show-signature"], ⟨"notes", ["notes"], .perhaps⟩,
    toggle "noteless" ["no-notes"], toggle "mailmap" ["use-mailmap", "mailmap", "no-mailmap"],
    setting "decorates" ["decorate-refs", "decorate-refs-exclude"], toggle "g" ["walk-reflogs"],
    toggle "left" ["left-right", "cherry-pick", "cherry-mark", "cherry"],
    setting "merged" ["diff-merges"], toggle "mergeless" ["no-diff-merges"],
    ⟨"tabs", ["expand-tabs"], .perhaps⟩, toggle "tabless" ["no-expand-tabs"],
    toggle "clear" ["clear-decorations"], toggle "q"]

/-- Nothing is shown of what was changed where that is asked for. -/
def hushed (given : Given) (showing : Showing) : Showing :=
  if given.has "q" || given.has "quiet" then
    { showing with
      roll? := none, hasNumbers := false, hasBars := false, hasSum := false, hasSummary := false
      hasPatch := false }
  else showing

/-- How commits are told, as options ask for it. -/
def tellingOf (given : Given) (otherwise : Style) : Work Telling := do
  let configured? ← valueOf? "format.pretty"
  let asked? : Option Bytes :=
    match given.last? ["format", "oneline"] with
    | some "oneline" => some (Bytes.ofString "oneline")
    | some _ => some ((given.value? "format").getD (Bytes.ofString "medium"))
    | none => configured?
  let style ←
    match asked? with
    | none => pure otherwise
    | some text =>
      match Style.ofBytes? text with
      | some style => pure style
      | none =>
        match ← valueOf? ("pretty." ++ Bytes.shown text) with
        | some text => pure ((Style.ofBytes? text).getD (.custom text true))
        | none =>
          if text = [] then pure (.custom [] true)
          else die (Bytes.ofString "invalid --pretty format: " ++ text)
  let dateText? := (given.value? "date").or (← valueOf? "log.date")
  let date ←
    match dateText? with
    | none => pure DateForm.plain
    | some text =>
      match DateForm.ofBytes? text with
      | some form => pure form
      | none => die (Bytes.ofString "unknown date format " ++ text)
  let isOneline := given.last? ["format", "oneline"] = some "oneline"
  return {
    style, date
    isShortened := (isOneline || given.has "shortened") && !given.has "lengthened"
    now := ← now
    decorations := ← decorations
    showsDecorations := given.has "decorated" && !given.has "undecorated" }

/-- Lines behind the signs of a drawing in which each commit follows the next one. -/
def drawn (isLast : Bool) (text : Bytes) : Bytes :=
  let lines := Text.splitAt 0x0A text
  let isEnded := lines.getLast? = some []
  let lines := if isEnded then lines.dropLast else lines
  let rest := Bytes.ofString (if isLast then "  " else "| ")
  let drawn := lines.zipIdx.map fun (line, index) =>
    (if index = 0 then Bytes.ofString "* " else rest) ++ line
  Text.joinWith 0x0A drawn ++ if isEnded then [0x0A] else []

/-- Tells a commit, with what it changed. `isFirst` tells that nothing came before it. -/
def tellOne (telling : Telling) (showing : Showing) (isDrawn isFirst isLast : Bool)
    (named : Named) (deltas : List Delta) : Work Unit := do
  let ending : UInt8 := showing.ending.byte
  let text := telling.told named
  let isBlank :=
    match telling.style with
    | .custom [] _ => true
    | _ => false
  let shown := if isBlank then [] else text
  let ended := if telling.isEnded && !isBlank then shown ++ [ending] else shown
  let changes := showing.bytes (fun _ => false) (showing.chosen deltas)
  let isBrief := telling.style = .oneline || isBlank
  let gap :=
    if changes = [] || isBrief then []
    else if showing.hasBars && showing.hasPatch then Bytes.ofString "---\n"
    else [0x0A]
  let front := if isFirst || telling.isEnded then [] else [ending]
  if isDrawn then
    let front := if front = [] then [] else Bytes.ofString "| \n"
    put (front ++ drawn isLast (ended ++ gap ++ changes))
  else put (front ++ ended ++ gap ++ changes)

/-- Tells commits one after the other. -/
def tellAll (telling : Telling) (showing : Showing) (isDrawn : Bool)
    (found : List (Named × List Delta)) : Work Unit := do
  let count := found.length
  for ((named, deltas), index) in found.zipIdx do
    tellOne telling showing isDrawn (index = 0) (index + 1 = count) named deltas

/-- The command that tells commits. -/
def log (arguments : List Bytes) : Work Unit := do
  let (front, behind?) := divided arguments
  let given ← options (selectForms ++ tellForms ++ Showing.forms) (plainArguments false front)
  let (revisions, scopes) ← partsOf given.operands behind?
  let showing := hushed given (Showing.ofGiven given false)
  let telling ← tellingOf given .medium
  let selection ← selection given revisions scopes
  let found ← selected given selection showing.detectsRenames
  tellAll telling showing (given.has "graph") found

/-- The commits by their names, or how many there are. -/
def listCommits (arguments : List Bytes) : Work Unit := do
  let (front, behind?) := divided arguments
  let forms := [toggle "count" ["count"], toggle "objects" ["objects"],
    toggle "boundary" ["boundary"], toggle "times" ["timestamp"], toggle "headless"
      ["no-commit-header"]]
  let given ← options (forms ++ selectForms ++ tellForms ++ Showing.forms)
    (plainArguments false front)
  let (revisions, scopes) ← partsOf given.operands behind?
  let isNamed := given.has "all" || given.has "branches" || given.has "tags"
  if revisions = [] && !isNamed then
    misused (Bytes.ofString "usage: git rev-list [<options>] <commit>... [--] [<path>...]")
  let selection ← selection given revisions scopes
  let found ← selected given selection true
  if given.has "count" then
    putLine (Text.Ascii.ofNat found.length)
  else if given.has "quiet" then pure ()
  else
    let telling ← tellingOf given (.custom (Bytes.ofString "%H") true)
    let isOneline := given.last? ["format", "oneline"] = some "oneline"
    for (named, _) in found do
      let parents :=
        if given.has "parents" then named.2.parents.flatMap (0x20 :: ·) else []
      let time :=
        if given.has "times" then Text.Ascii.ofInt named.2.committer.time ++ [0x20] else []
      let name := time ++ telling.name named.1 ++ parents
      if isOneline then putLine (time ++ telling.told named)
      else if given.has "format" then
        if !given.has "headless" then
          putLine (Bytes.ofString "commit " ++ name)
        match telling.style with
        | .custom _ _ =>
          let text := telling.told named
          if text ≠ [] || given.has "headless" then putLine text
        | _ =>
          let text := telling.told named
          put ((text.dropWhile (· ≠ 0x0A)).drop 1 ++ [0x0A])
      else putLine name

/-- Tells what stands in a directory that is kept. -/
def tellTree (text : Bytes) (entries : List Entry) : Work Unit := do
  put (Bytes.ofString "tree " ++ text ++ Bytes.ofString "\n\n")
  for entry in entries do
    let ending := if entry.kind = .directory then [separator] else []
    putLine (entry.name ++ ending)

/-- Shows something that is kept: a commit with what it changed, or a content. -/
def showOne (telling : Telling) (showing : Showing) (given : Given) (scopes : List Scope)
    (isFirst : Bool) (text : Bytes) : Work Unit := do
  let session ← get
  let id ← meant text
  match object? session id with
  | some (.blob bytes) => put bytes
  | some (.tree entries) =>
    if !isFirst then put [0x0A]
    tellTree text entries
  | some (.commit commit) =>
    let deltas ←
      if commit.parents.length < 2 || given.has "m" || given.has "first" then
        deltasWithin scopes showing.detectsRenames commit
      else pure []
    tellOne telling showing false isFirst true (id, commit) deltas
  | some (.mark mark) =>
    if !isFirst then put [0x0A]
    put (Bytes.ofString "tag " ++ mark.name ++ Bytes.ofString "\nTagger: "
      ++ mark.tagger.person ++ Bytes.ofString "\nDate:   "
      ++ telling.date.shown telling.now mark.tagger ++ Bytes.ofString "\n\n" ++ mark.message)
    match ← commitOf? mark.target with
    | some named =>
      let deltas ← deltasWithin scopes showing.detectsRenames named.2
      put [0x0A]
      tellOne telling showing false true true named deltas
    | none => pure ()
  | none => die (Bytes.ofString "bad object " ++ text)

/-- Shows what revisions mean. -/
def showAll (arguments : List Bytes) : Work Unit := do
  let (front, behind?) := divided arguments
  let given ← options (selectForms ++ tellForms ++ Showing.forms) (plainArguments false front)
  let (revisions, scopes) ← partsOf given.operands behind?
  let isMerge (commit : Commit) : Bool := 1 < commit.parents.length
  let showing := hushed given (Showing.ofGiven given true)
  let telling ← tellingOf given .medium
  let revisions := if revisions = [] then [Bytes.ofString "HEAD"] else revisions
  if (← headId?).isNone && revisions = [Bytes.ofString "HEAD"] then
    match ← head with
    | .reference name =>
      die (Bytes.ofString "your current branch '" ++ shortName name
        ++ Bytes.ofString "' does not have any commits yet")
    | .detached _ => unknownRevision (Bytes.ofString "HEAD")
  let mut isFirst := true
  for text in revisions do
    if (rangeOf? text).isSome then
      let selection ← selection given [text] scopes
      for (named, deltas) in ← selected given selection showing.detectsRenames do
        tellOne telling showing false isFirst true named (if isMerge named.2 then [] else deltas)
        isFirst := false
    else
      showOne telling showing given scopes isFirst text
      isFirst := false

/-- The subject of a commit in a summary: without blanks and a bracket with a mark for letters in
front. -/
def title (commit : Commit) : Bytes :=
  let stripped (text : Bytes) : Bytes := text.dropWhile (· = 0x20)
  let subject := stripped commit.subject
  let behind := (subject.dropWhile (· ≠ ascii ']')).drop 1
  if subject = [] then Bytes.ofString "<none>"
  else if (Bytes.ofString "[PATCH").isPrefixOf subject && subject.contains (ascii ']') then
    stripped behind
  else subject

/-- How many commits people made, and what they say. -/
def summarise (arguments : List Bytes) : Work Unit := do
  let (front, behind?) := divided arguments
  let forms := [toggle "n" ["numbered"], toggle "s" ["summary"], toggle "e" ["email"],
    toggle "c" ["committer"]]
  let given ← options (forms ++ selectForms.filter fun form => form.key ≠ "n") front
  let (revisions, scopes) ← partsOf given.operands behind?
  let isNamed := given.has "all"
  let found ←
    if revisions = [] && !isNamed then pure []
    else
      let plain : Given := { given with options := given.options.filter (·.1 ≠ "n") }
      selected plain (← selection plain revisions scopes) true
  let person (named : Named) : Bytes :=
    let signature := if given.has "c" then named.2.committer else named.2.author
    if given.has "e" then signature.person else signature.name
  let people := (found.map fun entry => person entry.1).eraseDups.mergeSort fun a b => a ≤ b
  let counted := people.map fun name =>
    (name, (found.filter fun entry => person entry.1 = name).map fun entry => title entry.1.2)
  let counted :=
    if given.has "n" then counted.mergeSort fun a b => b.2.length ≤ a.2.length else counted
  for (name, subjects) in counted do
    if given.has "s" then
      let count := Text.Ascii.ofNat subjects.length
      putLine (List.replicate (6 - count.length) 0x20 ++ count ++ 0x09 :: name)
    else
      put (name ++ Bytes.ofString s!" ({subjects.length}):\n"
        ++ subjects.reverse.flatMap (fun subject =>
          Bytes.ofString "      " ++ subject ++ [0x0A]) ++ [0x0A])

/-- What has become of a reference. -/
def tellMoves (arguments : List Bytes) : Work Unit := do
  let arguments := if arguments.head? = some (Bytes.ofString "show") then arguments.drop 1
    else arguments
  let given ← options (selectForms ++ tellForms ++ Showing.forms) (plainArguments false arguments)
  let text := (given.operands.head?).getD (Bytes.ofString "HEAD")
  let reference : Bytes ←
    if text = Bytes.ofString "HEAD" then pure text
    else do pure (((← referenceNamed? text).map Prod.fst).getD text)
  let moves ← journal reference
  if moves.isEmpty && (← headId?).isNone then
    match ← head with
    | .reference name =>
      die (Bytes.ofString "your current branch '" ++ shortName name
        ++ Bytes.ofString "' does not have any commits yet")
    | .detached _ => pure ()
  let moves :=
    match (given.value? "n").bind Text.Ascii.decimal? with
    | some count => moves.take count
    | none => moves
  let telling ← tellingOf given .oneline
  for (move, index) in moves.zipIdx do
    let place := text ++ Bytes.ofString "@\x7b" ++ Text.Ascii.ofNat index ++ [0x7D]
    match telling.style, ← commit? move.new with
    | .custom form _, some commit =>
      let form := Text.replaceAll (Bytes.ofString "%gs") move.reason form
      let form := Text.replaceAll (Bytes.ofString "%gd") place form
      let telling := { telling with style := .custom form true }
      putLine (telling.told (move.new, commit))
    | _, _ => putLine (short move.new ++ 0x20 :: place ++ Bytes.ofString ": " ++ move.reason)

def statusForms : List Form :=
  [toggle "s" ["short"], toggle "b" ["branch"], ⟨"porcelain", ["porcelain"], .perhaps⟩,
    toggle "long" ["long"], toggle "v" ["verbose"], ⟨"u", ["untracked-files"], .perhaps⟩,
    ⟨"ignored", ["ignored"], .perhaps⟩, toggle "z" ["null"], toggle "stash" ["show-stash"],
    toggle "plain" ["no-renames", "renames", "ahead-behind", "no-ahead-behind", "no-short",
      "no-branch"],
    ⟨"M", ["find-renames"], .perhaps⟩, ⟨"column", ["column"], .perhaps⟩,
    setting "submodules" ["ignore-submodules"]]

/-- Tells how the working tree stands. -/
def status (arguments : List Bytes) : Work Unit := do
  let given ← options statusForms arguments
  let session ← get
  let scopes ← scopes given.operands
  let detail ← detailOf given
  let ignored := given.has "ignored" && given.value? "ignored" ≠ some (Bytes.ofString "no")
  let matchesOnly := given.value? "ignored" = some (Bytes.ofString "matching")
  let standing ← standingOf (← staged) detail ignored matchesOnly scopes
  let version := (given.value? "porcelain").getD (Bytes.ofString "v1")
  let form :=
    match given.last? ["s", "porcelain", "long"] with
    | some form => form
    | none => if given.has "z" then "porcelain" else "long"
  let isShort ← isSet "status.short" false
  let form := if (given.last? ["s", "porcelain", "long", "z"]).isNone && isShort then "s" else form
  let isRelative ← isSet "status.relativepaths" true
  let isRaw := given.has "z"
  let layout (isRelative : Bool) : Standing.Layout :=
    ⟨session.site, isRelative && !isRaw, isRaw, true⟩
  let branchByDefault ← isSet "status.branch" false
  match form with
  | "s" =>
    if given.has "b" || branchByDefault then
      put (standing.branchLine isRaw)
    put (standing.brief (layout isRelative))
  | "porcelain" =>
    match Bytes.shown version with
    | "v2" | "2" =>
      if given.has "b" then put (standing.detailedBranch isRaw)
      put (standing.detailed { layout false with quotesBlanks := false })
    | "v1" | "1" =>
      if given.has "b" then put (standing.branchLine isRaw)
      put (standing.brief (layout false))
    | other => die (Bytes.ofString ("unsupported porcelain version '" ++ other ++ "'"))
  | _ =>
    let site := if isRelative then session.site else { session.site with inner := [] }
    put (standing.full site "No commits yet" false)
    if given.has "v" then
      let deltas ← stagedDeltas true standing.committed standing.index
      put (Patch.all Patch.Look.plain deltas)

end Work

end ChangelogSql.Repository
