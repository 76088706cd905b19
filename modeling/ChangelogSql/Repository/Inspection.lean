import ChangelogSql.Repository.Exclusion
import ChangelogSql.Repository.Selection
import ChangelogSql.Repository.Staging

/-!
Looking into a repository: what names mean, what is kept under them, what is
tracked, and what is left out.
-/

namespace ChangelogSql.Repository

open Text (ascii)
open Files
open Utility (Form Given toggle setting)

namespace Work

/-- The path of the repository's own directory as it is told. -/
def ownPath : Work Bytes := do
  let session ← get
  let site := session.site
  match ← setting? "GIT_DIR" with
  | some path => return path
  | none =>
    if site.isBare then
      return if session.view.cwd.path.bytes = site.own then [ascii '.'] else site.own
    else if site.own = site.top ++ separator :: ownName && site.inner = [] then return ownName
    else return site.own

/-- The working directory lies in the repository's own directory. -/
def isInsideOwn : Work Bool := do
  let session ← get
  return ((session.site.own ++ [separator]).isPrefixOf (session.view.cwd.path.bytes ++ [separator]))

/-- Says that a working tree is needed, and ends the command. -/
def needTree : Work Unit := do
  if (← site).isBare then
    die (Bytes.ofString "this operation must be run in a work tree")

def truth (value : Bool) : Bytes := Bytes.ofString (if value then "true" else "false")

/-- How names are told. -/
structure Naming where
  isVerified : Bool
  isQuiet : Bool
  /-- Only so many digits of names are told. -/
  digits? : Option Nat
  /-- Names of references are told in place of what they lead to, shortened or in full. -/
  symbolic? : Option Bool
  /-- The names stay as they were given. -/
  isLiteral : Bool

/-- A name of something that is kept, as it is told. -/
def tellName (naming : Naming) (isNegated : Bool) (text : Bytes) (id : Id) : Work Unit := do
  let front := if isNegated then [ascii '^'] else []
  match naming.symbolic? with
  | some isShort =>
    let full? : Option Bytes ←
      if text = Bytes.ofString "HEAD" || text = Bytes.ofString "@" then
        match ← head with
        | .reference name => pure (some name)
        | .detached _ => pure (some (Bytes.ofString "HEAD"))
      else do pure ((← referenceNamed? text).map Prod.fst)
    match full? with
    | some full => putLine (front ++ if isShort then shortName full else full)
    | none => pure ()
  | none =>
    if naming.isLiteral then putLine (front ++ text)
    else
      match naming.digits? with
      | some count => putLine (front ++ id.take (max 4 count))
      | none => putLine (front ++ id)

/-- A fact about the repository or the working directory that an option asks for. -/
def fact? (option : String) : Work (Option Bytes) := do
  let session ← get
  let site := session.site
  match option with
  | "--show-toplevel" =>
    needTree
    return some site.top
  | "--git-dir" | "--git-common-dir" => return some (← ownPath)
  | "--absolute-git-dir" => return some site.own
  | "--is-inside-work-tree" => return some (truth (!site.isBare && !(← isInsideOwn)))
  | "--is-inside-git-dir" => return some (truth (← isInsideOwn))
  | "--is-bare-repository" => return some (truth (← isSet "core.bare" false))
  | "--is-shallow-repository" => return some (truth false)
  | "--show-cdup" =>
    let depth := site.inner.count separator
    return some ((List.replicate depth (Bytes.ofString "../")).flatten)
  | "--show-prefix" => return some site.inner
  | "--show-object-format" => return some (Bytes.ofString "sha1")
  | "--show-ref-format" => return some (Bytes.ofString "files")
  | _ => return none

/-- Tells what one argument means. -/
def tellMeaning (naming : Naming) (text : Bytes) : Work Unit := do
  match rangeOf? text with
  | some (first, second, isWide) =>
    match ← resolved? first, ← resolved? second with
    | some old, some new =>
      if isWide then
        tellName naming false first old
        tellName naming false second new
        for base in ← mergeBases (← commitNamed first) (← commitNamed second) do
          tellName naming true base.1 base.1
      else
        tellName naming false second new
        tellName naming true first old
    | _, _ =>
      if naming.isVerified then die (Bytes.ofString "Needed a single revision")
      else
        putLine text
        unknownRevision text
  | none =>
    let isNegated := text.head? = some (ascii '^')
    let name := if isNegated then text.drop 1 else text
    match ← meant? name with
    | some id => tellName naming isNegated name id
    | none =>
      if naming.isVerified then
        if naming.isQuiet then stop 1 else die (Bytes.ofString "Needed a single revision")
      else
        putLine text
        if !(← canBePath text) then unknownRevision text

/-- Tells the references whose names begin in a way. -/
def tellReferences (naming : Naming) (start : String) : Work Unit := do
  for (name, id) in ← references start do
    tellName naming false name id

/-- Tells what arguments mean, in their order. -/
def tellMeanings : Naming → List Bytes → Work Unit
  | _, [] => pure ()
  | naming, argument :: rest => do
    let text := Bytes.shown argument
    match ← fact? text with
    | some told =>
      if text ≠ "--show-cdup" || !(← site).isBare then putLine told
      tellMeanings naming rest
    | none =>
      match text with
      | "--verify" => tellMeanings { naming with isVerified := true } rest
      | "-q" | "--quiet" => tellMeanings { naming with isQuiet := true } rest
      | "--abbrev-ref" | "--abbrev-ref=strict" | "--abbrev-ref=loose" =>
        tellMeanings { naming with symbolic? := some true } rest
      | "--symbolic-full-name" => tellMeanings { naming with symbolic? := some false } rest
      | "--symbolic" => tellMeanings { naming with isLiteral := true } rest
      | "--short" => tellMeanings { naming with digits? := some 7, isVerified := true } rest
      | "--revs-only" | "--no-flags" | "--sq" | "--flags" | "--no-revs" | "--end-of-options" =>
        tellMeanings naming rest
      | "--all" => do
        tellReferences naming "refs/"
        tellMeanings naming rest
      | "--branches" => do
        tellReferences naming "refs/heads/"
        tellMeanings naming rest
      | "--tags" => do
        tellReferences naming "refs/tags/"
        tellMeanings naming rest
      | "--show-superproject-working-tree" => tellMeanings naming rest
      | "--" => do
        putLine argument
        for path in rest do
          putLine path
      | _ =>
        match Text.afterBlock? (Bytes.ofString "--short=") argument with
        | some digits =>
          let count := (Text.Ascii.decimal? digits).getD 7
          tellMeanings { naming with digits? := some count, isVerified := true } rest
        | none =>
          if argument.head? = some (ascii '-') && 1 < argument.length then
            putLine argument
            tellMeanings naming rest
          else
            tellMeaning naming argument
            tellMeanings naming rest

/-- Tells facts about the repository, and what names mean. -/
def tellAbout (arguments : List Bytes) : Work Unit := do
  match arguments with
  | [option, path] =>
    if Bytes.shown option = "--git-path" then
      putLine ((← ownPath) ++ separator :: path)
      return
  | _ => pure ()
  let names := arguments.filter fun argument => argument.head? ≠ some (ascii '-')
  let isVerified := arguments.contains (Bytes.ofString "--verify")
  if isVerified && names.length ≠ 1 then
    if arguments.any fun argument => ["-q", "--quiet"].contains (Bytes.shown argument) then stop 1
    else die (Bytes.ofString "Needed a single revision")
  tellMeanings ⟨false, false, none, none, false⟩ arguments

/-- An entry of a directory that is kept, as it is listed. -/
def entryLine (session : Session) (isLong : Bool) (entry : Entry) (shown : Bytes) : Bytes :=
  let size :=
    match object? session entry.id, entry.kind with
    | _, .directory | none, _ => [ascii '-']
    | some object, _ => Text.Ascii.ofNat object.body.length
  let size := if isLong then 0x20 :: Patch.aligned 7 size else []
  Bytes.ofString (entry.kind.fullDigits ++ " " ++ entry.kind.word ++ " ") ++ entry.id ++ size
    ++ 0x09 :: shown

/-- The content of something that is kept as people read it. -/
def readable (session : Session) : Object → Bytes
  | .tree entries =>
    entries.flatMap fun entry =>
      entryLine session false entry (shownPath false entry.name) ++ [0x0A]
  | object => object.body

/-- Something that is kept, by what a text means. -/
def objectNamed (text : Bytes) : Work (Id × Object) := do
  match ← meant? text with
  | none =>
    match pathParts? text with
    | some _ => unknownRevision text
    | none => die (Bytes.ofString "Not a valid object name " ++ text)
  | some id =>
    match object? (← get) id with
    | some object => return (id, object)
    | none => die (Bytes.ofString "git cat-file: could not get object info")

/-- Something of a kind that something that is kept leads to. -/
def ofKind? (session : Session) (word : Bytes) : Nat → Object → Option Object
  | 0, _ => none
  | fuel + 1, object =>
    if Bytes.ofString object.word = word then some object
    else
      match object with
      | .commit commit => (object? session commit.tree).bind (ofKind? session word fuel)
      | .mark mark => (object? session mark.target).bind (ofKind? session word fuel)
      | _ => none

/-- The line that tells what something is. -/
def batchLine (form id : Bytes) (object : Object) : Bytes :=
  let replaced (name : String) (value text : Bytes) : Bytes :=
    Text.replaceAll (Bytes.ofString ("%(" ++ name ++ ")")) value text
  replaced "objectname" id (replaced "objecttype" (Bytes.ofString object.word)
    (replaced "objectsize" (Text.Ascii.ofNat object.body.length) (replaced "rest" [] form)))

/-- Tells what the names in the input are, with what is kept under them if that is asked for. -/
def tellBatch (form : Bytes) (isWhole : Bool) : Work Unit := do
  let session ← get
  let lines := Text.splitAt 0x0A (← input)
  let lines := if lines.getLast? = some [] then lines.dropLast else lines
  for line in lines do
    match ← meant? line with
    | none => putLine (line ++ Bytes.ofString " missing")
    | some id =>
      match object? session id with
      | none => putLine (line ++ Bytes.ofString " missing")
      | some object =>
        putLine (batchLine form id object)
        if isWhole then putLine object.body

def contentForms : List Form :=
  [toggle "t", toggle "s", toggle "e", toggle "p", ⟨"batch", ["batch"], .perhaps⟩,
    ⟨"check", ["batch-check"], .perhaps⟩, toggle "every" ["batch-all-objects"],
    toggle "buffered" ["buffer"], toggle "unordered" ["unordered"],
    toggle "filtered" ["textconv", "filters"]]

/-- Tells what is kept under a name. -/
def tellContent (arguments : List Bytes) : Work Unit := do
  let given ← options contentForms arguments
  let session ← get
  let plain := Bytes.ofString "%(objectname) %(objecttype) %(objectsize)"
  if given.has "batch" then tellBatch ((given.value? "batch").getD plain) true
  else if given.has "check" then tellBatch ((given.value? "check").getD plain) false
  else
    match given.last? ["t", "s", "e", "p"], given.operands with
    | some "e", [text] =>
      match ← meant? text with
      | some id => if (object? session id).isNone then stop 1
      | none =>
        if (pathParts? text).isSome then let _ ← objectNamed text
        die (Bytes.ofString "Not a valid object name " ++ text)
    | some "t", [text] => putLine (Bytes.ofString (← objectNamed text).2.word)
    | some "s", [text] => putLine (Text.Ascii.ofNat (← objectNamed text).2.body.length)
    | some "p", [text] => put (readable session (← objectNamed text).2)
    | none, [word, text] =>
      if !(["blob", "tree", "commit", "tag"].contains (Bytes.shown word)) then
        die (Bytes.ofString "invalid object type \"" ++ word ++ Bytes.ofString "\"")
      match ofKind? session word 10 (← objectNamed text).2 with
      | some object => put object.body
      | none => die (Bytes.ofString "git cat-file " ++ text ++ Bytes.ofString ": bad file")
    | _, _ =>
      misused (Bytes.ofString "usage: git cat-file (-t | -s | -e | -p | <type>) <object>")

def treeForms : List Form :=
  [toggle "r", toggle "t", toggle "d", toggle "l" ["long"], toggle "z",
    toggle "names" ["name-only", "name-status"], toggle "whole" ["full-tree"],
    toggle "full" ["full-name"], ⟨"abbrev", ["abbrev"], .perhaps⟩,
    toggle "objects" ["object-only"]]

/-- The entries of a directory that is kept and of those below it that are wanted, by their paths.
`fuel` bounds how deep they lie. -/
def listed (session : Session) (wants : Bytes → Bool) (showsDirectories : Bytes → Bool) :
    Nat → Bytes → Id → List (Bytes × Entry)
  | 0, _, _ => []
  | fuel + 1, base, id =>
    match object? session id with
    | some (.tree entries) =>
      entries.flatMap fun entry =>
        let path := base ++ entry.name
        if entry.kind = .directory && wants path then
          (if showsDirectories path then [(path, entry)] else [])
            ++ listed session wants showsDirectories fuel (path ++ [separator]) entry.id
        else [(path, entry)]
    | _ => []

/-- Lists a directory that is kept. -/
def tellDirectory (arguments : List Bytes) : Work Unit := do
  let given ← options treeForms arguments
  let session ← get
  let site := session.site
  match given.operands with
  | [] => misused (Bytes.ofString "usage: git ls-tree [<options>] <tree-ish> [<path>...]")
  | text :: paths =>
    match ← meant? text with
    | none => die (Bytes.ofString "Not a valid object name " ++ text)
    | some id =>
      match ← treeOf? id with
      | none => die (Bytes.ofString "not a tree object")
      | some tree =>
        let base := if given.has "whole" then [] else site.inner
        let within := if paths = [] then (if base = [] then [] else [base]) else
          paths.map fun path => (Scope.fromTop? { site with inner := base } path).getD path
            ++ if path.getLast? = some separator then [separator] else []
        let isAsked (path : Bytes) : Bool :=
          within = [] || within.any fun wanted =>
            let bare := (wanted.reverse.dropWhile (· = separator)).reverse
            bare = [] || path = bare || (bare ++ [separator]).isPrefixOf path
        let leads (path : Bytes) : Bool :=
          within.any fun wanted => (path ++ [separator]).isPrefixOf wanted
        let wants (path : Bytes) : Bool := leads path || (given.has "r" && isAsked path)
        let showsDirectories (path : Bytes) : Bool :=
          (given.has "t" || given.has "d") && (isAsked path || leads path)
        let found := (listed session wants showsDirectories depthLimit [] tree).filter fun
          (path, entry) =>
            (isAsked path || (showsDirectories path && entry.kind = .directory))
              && (!given.has "d" || entry.kind = .directory)
        for (path, entry) in found do
          let shown :=
            if given.has "full" || given.has "whole" then path else site.relative path
          let shown := if given.has "z" then shown else shownPath false shown
          let line :=
            if given.has "names" then shown
            else if given.has "objects" then entry.id
            else entryLine session (given.has "l") entry shown
          put (line ++ [if given.has "z" then 0 else 0x0A])

def hashForms : List Form :=
  [toggle "w", setting "t", toggle "stdin" ["stdin"], toggle "paths" ["stdin-paths"],
    setting "path" ["path"], toggle "plain" ["no-filters", "literally"]]

/-- The names that contents would be kept under. -/
def tellDigests (arguments : List Bytes) : Work Unit := do
  let given ← options hashForms arguments
  let session ← get
  let word := ((given.value? "t").map Bytes.shown).getD "blob"
  let named (bytes : Bytes) : Work Unit := do
    let whole := Bytes.ofString s!"{word} {bytes.length}" ++ 0 :: bytes
    let id := Digest.hex (Digest.ofBytes whole)
    if given.has "w" then setOwn (objectName id) whole
    putLine id
  if given.has "stdin" then
    named (← input)
  let lines := (Text.splitAt 0x0A (← input)).filter (· ≠ [])
  let more := if given.has "paths" then lines else []
  for path in more ++ given.operands do
    match session.view.read ⟨path⟩ with
    | .ok bytes => named bytes
    | .error fault =>
      die (Bytes.ofString "could not open '" ++ path ++ Bytes.ofString "' for reading: "
        ++ Bytes.ofString fault.reason)

def ignoreForms : List Form :=
  [toggle "q" ["quiet"], toggle "v" ["verbose"], toggle "n" ["non-matching"],
    toggle "all" ["no-index"], toggle "stdin" ["stdin"], toggle "z"]

/-- Tells which paths are left out. -/
def tellIgnored (arguments : List Bytes) : Work Unit := do
  let given ← options ignoreForms arguments
  let session ← get
  let exclusions ← exclusions
  let index ← staged
  let lines := (Text.splitAt 0x0A (← input)).filter (· ≠ [])
  let more := if given.has "stdin" then lines else []
  let paths := given.operands ++ more
  if paths = [] && !given.has "stdin" then
    die (Bytes.ofString "no path specified")
  let mut isAny := false
  for path in paths do
    let scope ← Scope.ofArgument path
    let isDirectory := scope.forDirectory
      || match session.view.linkStat (session.site.outer scope.path) with
        | .ok (.directory ..) => true
        | _ => false
    let isTracked := !given.has "all" && (index.find? scope.path).isSome
    let found? := if isTracked || scope.path = [] then none
      else Exclusion.decisive? exclusions scope.path isDirectory
    let found? := found?.filter fun found => given.has "v" || !found.isNegated
    let shown := shownPath false path
    match found? with
    | some found =>
      isAny := true
      if given.has "v" then
        putLine (found.source ++ ascii ':' :: Text.Ascii.ofNat found.line ++ ascii ':'
          :: found.text ++ 0x09 :: shown)
      else if !given.has "q" then putLine shown
    | none => if given.has "v" && given.has "n" then putLine (Bytes.ofString "::\t" ++ shown)
  if !isAny then stop 1

def fileForms : List Form :=
  [toggle "c" ["cached"], toggle "d" ["deleted"], toggle "m" ["modified"],
    toggle "o" ["others"], toggle "i" ["ignored"], toggle "s" ["stage"], toggle "t",
    toggle "z", toggle "standard" ["exclude-standard"], toggle "strict" ["error-unmatch"],
    toggle "full" ["full-name"], toggle "directory" ["directory"],
    toggle "empty" ["no-empty-directory"], setting "x" ["exclude"], setting "X" ["exclude-from"],
    setting "each" ["exclude-per-directory"], ⟨"abbrev", ["abbrev"], .perhaps⟩,
    toggle "once" ["deduplicate"], toggle "u" ["unmerged"], toggle "k" ["killed"], toggle "v"]

/-- The patterns for what is left out that options ask for. -/
def askedExclusions (given : Given) : Work (List Exclusion) := do
  let own := given.options.filterMap fun (key, value?) =>
    if key = "x" then value?.bind (Exclusion.ofLine? [] [] 1) else none
  let standard ← if given.has "standard" then exclusions else pure []
  let fromFile ←
    match given.value? "X" with
    | some path => do pure (Exclusion.ofFile [] path (((← view).read ⟨path⟩).toOption.getD []))
    | none => pure []
  return standard ++ fromFile ++ own

/-- Lists what is tracked or what is not. -/
def tellFiles (arguments : List Bytes) : Work Unit := do
  let given ← options fileForms arguments
  let session ← get
  let site := session.site
  let scopes ← scopes given.operands
  let index ← staged
  if given.has "strict" then
    for scope in scopes do
      if !index.any fun entry => scope.meets entry.1 then
        fail 1 (Bytes.ofString "pathspec '" ++ scope.text
          ++ Bytes.ofString ("' did not match any file(s) known to git\n"
            ++ "Did you forget to 'git add'?"))
  let exclusions ← askedExclusions given
  let isHere (path : Bytes) : Bool :=
    site.inner.isPrefixOf path || scopes.any fun scope => scope.meets path
  let admits (path : Bytes) : Bool := isHere path && Scope.admits scopes path
  let all ← found
  let known ← foundMap
  let ending : UInt8 := if given.has "z" then 0 else 0x0A
  let shown (path : Bytes) : Bytes :=
    let path := if given.has "full" then path else site.relative path
    if given.has "z" then path else shownPath false path
  let line (tag : String) (path : Bytes) : Work Unit :=
    let front := if given.has "t" || given.has "v" then Bytes.ofString (tag ++ " ") else []
    put (front ++ shown path ++ [ending])
  if given.has "o" then
    let others := all.filter fun (path, _) => (index.find? path).isNone
    let others := others.filter fun (path, found) =>
      let isOut := Exclusion.excludes exclusions path (found = .module)
      if given.has "i" then isOut else !isOut
    let entries := others.map fun (path, found) => (path, found = .module)
    let detail := if given.has "directory" then Detail.directories else .everything
    for path in untrackedPaths index detail [] entries do
      if admits path then
        line "?" path
  let isPlain := !(given.has "o" || given.has "d" || given.has "m" || given.has "k")
  let showsTracked := given.has "c" || given.has "s" || isPlain
  for (path, leaf) in index do
    if admits path then
      let isOut := Exclusion.excludes exclusions path false
      if showsTracked && (!given.has "i" || isOut) then
        if given.has "s" then
          let front := if given.has "t" then Bytes.ofString "H " else []
          put (front ++ Bytes.ofString (leaf.kind.fullDigits ++ " ") ++ leaf.id
            ++ Bytes.ofString " 0\t" ++ shown path ++ [ending])
        else line "H" path
      match known[path]? with
      | none =>
        if given.has "d" then line "R" path
        if given.has "m" then line "C" path
      | some found =>
        if given.has "m" && leaf.kind ≠ .module && found.leaf session.view.disk ≠ leaf then
          line "C" path

end Work

end ChangelogSql.Repository
