import ChangelogSql.Repository.Setting

/-!
Where a repository is found, and how a new one is made. A working directory
belongs to the nearest directory above it that holds a repository.
-/

namespace ChangelogSql.Repository

open Text (ascii)
open Files Programs

/-- A text leads to a branch or is the name of a commit. -/
def isHead (text : Bytes) : Bool :=
  let text := Work.trimmed text
  match Text.afterBlock? (Bytes.ofString "ref:") text with
  | some rest => (Bytes.ofString "refs/").isPrefixOf (rest.dropWhile Text.Ascii.isSpace)
  | none => text.length = 40 && text.all fun b => (Text.Ascii.hexDigit? b).isSome

/-- A directory holds what a repository consists of. -/
def isOwnDirectory (view : View) (path : Path) : Bool :=
  let inside (name : String) : Path := path.join (Path.ofString name)
  let head := (view.read (inside "HEAD")).toOption
  head.any isHead && view.isDirectory (inside "objects") && view.isDirectory (inside "refs")

/-- What a search for a repository comes to. -/
inductive Search where
  | found (site : Site)
  | nothing
  /-- Something stands where a repository should be, and is none. -/
  | refused (reason : Bytes)

/-- The path of one place below another, with a separator at its end unless they are the same. -/
def innerPath (top here : Location) : Bytes :=
  (here.drop top.length).flatMap fun name => name.bytes ++ [separator]

/-- A repository by the place of its working tree. -/
def siteAt (own : Bytes) (top here : Location) (isBare : Bool) : Site :=
  ⟨own, top.path.bytes, top, innerPath top here, isBare⟩

/-- What a file leads to that stands where a repository should be. -/
def followedFile (view : View) (top here : Location) (file : Path) : Search :=
  let content := (view.read file).toOption.getD []
  match Text.afterBlock? (Bytes.ofString "gitdir: ") content with
  | none => .refused (Bytes.ofString "invalid gitfile format: " ++ file.bytes)
  | some target =>
    let path := top.path.join ⟨Work.trimmed target⟩
    if isOwnDirectory view path then
      match view.canonical path with
      | .ok path => .found (siteAt path.bytes top here false)
      | .error _ => .nothing
    else .refused (Bytes.ofString "not a git repository: " ++ path.bytes)

/-- What a directory says about where the repository is. -/
def searchAt? (view : View) (here top : Location) : Option Search :=
  let own := top.path.join ⟨ownName⟩
  if view.isFile own then some (followedFile view top here own)
  else if isOwnDirectory view own then some (.found (siteAt own.bytes top here false))
  else if isOwnDirectory view top.path then
    some (.found (siteAt top.path.bytes top here true))
  else none

/-- How many of the directories above one are not looked at: those from the lowest of some limits
on. -/
def ceiling (view : View) (environment : Environment) (here : Location) : Nat :=
  let limits := Text.splitAt (ascii ':')
    ((environment.lookup (Bytes.ofString "GIT_CEILING_DIRECTORIES")).getD [])
  let depths := limits.filterMap fun limit =>
    if limit.head? ≠ some separator then none
    else
      match view.locate ⟨limit⟩ with
      | .ok location =>
        if location.isPrefixOf here && location.length < here.length then
          some (location.length + 1)
        else none
      | .error _ => none
  depths.foldl max 0

/-- The repository whose own directory is named. -/
def named (view : View) (environment : Environment) (path : Bytes) : Search :=
  let given? (name : String) := environment.lookup (Bytes.ofString name)
  match view.locate ⟨path⟩ with
  | .error _ => .refused (Bytes.ofString "not a git repository: '" ++ path ++ [ascii '\''])
  | .ok location =>
    if !isOwnDirectory view location.path then
      .refused (Bytes.ofString "not a git repository: '" ++ path ++ [ascii '\''])
    else
      match given? "GIT_WORK_TREE" with
      | none => .found (siteAt location.path.bytes view.cwd view.cwd false)
      | some top =>
        match view.locate ⟨top⟩ with
        | .error _ => .refused (Bytes.ofString "Invalid path '" ++ top ++ [ascii '\''])
        | .ok top =>
          if top.isPrefixOf view.cwd then
            .found (siteAt location.path.bytes top view.cwd false)
          else .found (siteAt location.path.bytes top top true)

/-- The repository that the working directory belongs to. -/
def search (view : View) (environment : Environment) : Search :=
  match environment.lookup (Bytes.ofString "GIT_DIR") with
  | some path => named view environment path
  | none =>
    let here := view.cwd
    let least := ceiling view environment here
    let tops := (List.range (here.length + 1)).reverse.filter (least ≤ ·)
    ((tops.map here.take).findSome? (searchAt? view here)).getD .nothing

/-- What is said where there is no repository. -/
def nowhere : Bytes :=
  Bytes.ofString "not a git repository (or any of the parent directories): .git"

/-- What new repositories hold beside objects and references. -/
def fixtures (isBare : Bool) : List (String × String) :=
  [("description", "Unnamed repository; edit this file 'description' to name the repository.\n"),
    ("info/exclude", "# git ls-files --others --exclude-from=.git/info/exclude\n"
      ++ "# Lines that start with '#' are comments.\n"
      ++ "# For a project mostly in C, the following would be a good set of\n"
      ++ "# exclude patterns (uncomment them if you want to use them):\n# *.[oa]\n# *~\n"),
    ("config", "[core]\n\trepositoryformatversion = 0\n\tfilemode = true\n\tbare = "
      ++ (if isBare then "true\n" else "false\n\tlogallrefupdates = true\n"))]

/-- Examples of what can be run on occasions. -/
def samples : List String :=
  ["applypatch-msg", "commit-msg", "fsmonitor-watchman", "post-update", "pre-applypatch",
    "pre-commit", "pre-merge-commit", "pre-push", "pre-rebase", "pre-receive",
    "prepare-commit-msg", "push-to-checkout", "update"]

/-- The directories of new repositories. -/
def directories : List String :=
  ["branches", "hooks", "info", "objects/info", "objects/pack", "refs/heads", "refs/tags"]

namespace Work

/-- Makes a directory with all that lead to it. -/
def makeDirectories (path : Path) : Work Unit := do
  match ← change fun view => view.makeDirectories path with
  | .ok () => pure ()
  | .error fault =>
    die (Bytes.ofString "cannot mkdir " ++ path.bytes ++ Bytes.ofString ": "
      ++ Bytes.ofString fault.reason)

/-- Makes the repository of the session, or adds what it lacks. -/
def setUp (isQuiet : Bool) (branch? : Option Bytes) : Work Unit := do
  let site ← site
  let known := (← own? (Bytes.ofString "HEAD")).isSome
  for name in directories do
    makeDirectories (site.path (Bytes.ofString name))
  for (name, content) in fixtures site.isBare do
    if (← own? (Bytes.ofString name)).isNone then
      setOwn (Bytes.ofString name) (Bytes.ofString content)
  for name in samples do
    let name := Bytes.ofString ("hooks/" ++ name ++ ".sample")
    if (← own? name).isNone then
      let _ ← change fun view =>
        written view (site.path name) (Bytes.ofString "#!/bin/sh\n") programMode
  if !known then
    let general? := (← valueOf? "init.defaultbranch")
    let branch := (branch?.or general?).getD (Bytes.ofString "master")
    setOwn (Bytes.ofString "HEAD") (Bytes.ofString "ref: refs/heads/" ++ branch ++ [0x0A])
  if !isQuiet then
    let verb := if known then "Reinitialized existing" else "Initialized empty"
    putLine (Bytes.ofString (verb ++ " Git repository in ") ++ site.own
      ++ [separator])

end Work

end ChangelogSql.Repository
