import ChangelogSql.Utility.Backup

/-!
The programs that give what stands at one place another place, or one more. The
last operand says where to: it is the new place itself, or a directory in which
the new places are.
-/

namespace ChangelogSql.Utility.Transfer

open Text (ascii)
open Files Kernel
open Tool
open Entry (change failure within confirms depthLimit)

/-- A place and the new one. -/
structure Way where
  source : Bytes
  goal : Bytes

/-- The last segment of a path, as it names an entry of another directory. -/
def nameOf (path : Bytes) : Bytes :=
  lastSegment ⟨path⟩

/-- A path without separators at its end. -/
def trimmed (path : Bytes) : Bytes :=
  let rest := (path.reverse.dropWhile (· = separator)).reverse
  if rest = [] then path else rest

/-- The options that say where to. -/
def goalOptions : List Form :=
  [setting "t" ["target-directory"], toggle "T" ["no-target-directory"]]

/-- The ways that operands mean. `opens` tells whether an operand is taken for a directory, and why it
is not. -/
def waysOf (given : Given) (opens : View → Bytes → Except Fault Unit)
    (words : String := "target directory ") : Tool (List Way) := do
  let operands := given.operands
  let count := operands.length
  let operands := operands.zipIdx.map fun (path, index) =>
    let isSource := given.has "t" || index + 1 < count
    if given.has "strip" && isSource then trimmed path else path
  match given.value? "t" with
  | some directory =>
    if operands.isEmpty then
      misuse 1 (Bytes.ofString "missing file operand")
    if given.has "T" then
      failWith 1 (Bytes.ofString
        "cannot combine --target-directory (-t) and --no-target-directory (-T)")
    match opens (← view) directory with
    | .ok () => return operands.map fun source => ⟨source, within directory (nameOf source)⟩
    | .error fault =>
      failWith 1 (Bytes.ofString words ++ Quotation.quoted directory
        ++ Bytes.ofString (": " ++ fault.reason))
  | none =>
    match operands with
    | [] => misuse 1 (Bytes.ofString "missing file operand")
    | [source] =>
      misuse 1 (Bytes.ofString "missing destination file operand after " ++ Quotation.cited source)
    | first :: second :: rest =>
      if given.has "T" then
        match rest with
        | [] => return [⟨first, second⟩]
        | other :: _ => misuse 1 (Bytes.ofString "extra operand " ++ Quotation.cited other)
      else
        let last := operands.getLast?.getD second
        match opens (← view) last with
        | .ok () =>
          return operands.dropLast.map fun source => ⟨source, within last (nameOf source)⟩
        | .error fault =>
          if rest.isEmpty then return [⟨first, second⟩]
          else
            failWith 1 (Bytes.ofString "target " ++ Quotation.quoted last
              ++ Bytes.ofString (": " ++ fault.reason))

/-- A directory stands at the end of a path, links followed. -/
def opensAsDirectory (view : View) (path : Bytes) : Except Fault Unit := do
  match ← view.stat ⟨path⟩ with
  | .directory .. => return ()
  | _ => throw .notDirectory

/-- Complains about two paths. -/
def complainOfBoth (before : String) (first : Bytes) (between : String) (second : Bytes)
    (after : String) : Tool Unit :=
  complain (Bytes.ofString before ++ Quotation.quoted first ++ Bytes.ofString between
    ++ Quotation.quoted second ++ Bytes.ofString after)

/-- Tells what was done with a path. -/
def tell (before : String) (source : Bytes) (between : String) (goal : Bytes) : Tool Unit :=
  putLine (Bytes.ofString before ++ Quotation.quoted source ++ Bytes.ofString between
    ++ Quotation.quoted goal)

def complainSame (source goal : Bytes) : Tool Unit :=
  complainOfBoth "" source " and " goal " are the same file"

/-- Tells what was done with a path, and which backup there is of what stood at the new one. -/
def tellKept (before : String) (way : Way) (kept? : Option Bytes) : Tool Unit :=
  let behind :=
    match kept? with
    | some kept => Bytes.ofString " (backup: " ++ Quotation.quoted kept ++ [ascii ')']
    | none => []
  putLine (Bytes.ofString before ++ Quotation.quoted way.source ++ Bytes.ofString " -> "
    ++ Quotation.quoted way.goal ++ behind)

/-- Makes a backup of what stands at the end of a way, and complains where there is none then. The
backup can not be what the way leads from. -/
def keepGoal (backup : Backup) (way : Way) (deed : String) : Tool (Option Bytes) := do
  let name := lastSegment ⟨way.goal⟩
  let (front, back) := (lastSegment ⟨way.source⟩, name ++ backup.suffix)
  let seen ← view
  let identityOf (path : Bytes) : Option Identity :=
    (seen.facts false ⟨path⟩).toOption.map Facts.identity
  let other := (way.goal.reverse.dropWhile (· = separator)).reverse ++ backup.suffix
  if backup.naming ≠ .numbered && front = back && identityOf way.source = identityOf other then
    complainOfBoth "backing up " way.goal " might destroy source;  " way.source (" not " ++ deed)
    return none
  match ← backup.keep way.goal with
  | .ok kept => return some kept
  | .error fault =>
    failure "cannot backup" way.goal fault.reason
    return none

/-- How things are copied. -/
structure Manner where
  isDeep : Bool
  /-- Links that are named are followed, and links that are met. -/
  followsFirst : Bool
  followsAll : Bool
  /-- Permissions and times are kept. -/
  keeps : Bool
  isForced : Bool
  /-- What is there already is left alone; or else it is asked about. -/
  refuses : Bool
  asks : Bool
  onlyNewer : Bool
  isVerbose : Bool
  asLinks : Bool
  asSymbolic : Bool
  backup? : Option Backup
  /-- Directories are made as copies of those that a path names. -/
  withParents : Bool
  /-- What is there already is taken away first. -/
  removesFirst : Bool
  /-- What has several places keeps to itself what is written to it. -/
  keepsLinks : Bool
  /-- Nothing is written, but permissions and times are kept. -/
  onlyFacts : Bool
  /-- Files are put where they are used. -/
  installs : Bool

/-- The copy of a file's bytes. -/
def copyContent (manner : Manner) (source goal : Bytes) (facts : Facts) (isNew : Bool) :
    Tool Unit := do
  match ← ask (Kernel.Request.openPath ⟨source⟩ Purpose.reading 0) with
  | .error fault =>
    complain (Bytes.ofString "cannot open " ++ Quotation.quoted source
      ++ Bytes.ofString (" for reading: " ++ fault.reason))
  | .ok input =>
    let mode := facts.mode &&& 0o777
    let isDangling :=
      ((← view).linkStat ⟨goal⟩).toOption.any fun node =>
        match node with
        | .link _ => true
        | _ => false
    let opened ←
      if isNew then
        ask (Kernel.Request.openPath ⟨goal⟩ Purpose.creating mode)
      else do
        match ← ask (Kernel.Request.openPath ⟨goal⟩
          ⟨false, true, false, !manner.onlyFacts, false, false⟩ mode) with
        | .ok output => pure (.ok output)
        | .error fault =>
          if manner.isForced then
            let _ ← change fun view _ => view.unlink ⟨goal⟩
            ask (Kernel.Request.openPath ⟨goal⟩ Purpose.creating mode)
          else pure (.error fault)
    match opened with
    | .error fault =>
      if isNew && isDangling then
        complain (Bytes.ofString "not writing through dangling symlink " ++ Quotation.quoted goal)
      else
        let fault := if fault = .isDirectory && isTrailed ⟨goal⟩ then .notDirectory else fault
        failure "cannot create regular file" goal fault.reason
    | .ok output =>
      if !manner.onlyFacts then
        match ← readAll input with
        | .error fault => failure "error reading" source fault.reason
        | .ok bytes =>
          match ← perform (Activity.write output bytes) with
          | .ok () => pure ()
          | .error fault => failure "error writing" goal fault.reason
      let _ ← ask (Kernel.Request.close output)
      if manner.keeps then
        let _ ← change fun view _ => view.setMode ⟨goal⟩ fun _ _ => facts.mode
        let _ ← Entry.setTime goal facts.modified
    let _ ← ask (Kernel.Request.close input)

/-- What a link that stands at a path leads to. -/
def linkTarget? (view : View) (path : Bytes) : Option Path :=
  match view.linkStat ⟨path⟩ with
  | .ok (.link target) => some target
  | _ => none

/-- The names in a directory. -/
def namesIn (view : View) (path : Bytes) : List Bytes :=
  match view.stat ⟨path⟩ with
  | .ok (.directory _ entries) => entries.toList.map fun entry => entry.1.bytes
  | _ => []

/-- The copy of what stands at a place. `top` are the paths that were named, and `made?` is the place
of the directory that was made for them. -/
def copy (manner : Manner) (top : Way) : Nat → Option Location → Way → Tool Unit
  | 0, _, _ => return ()
  | depth + 1, made?, way => do
    let (source, goal) := (way.source, way.goal)
    let seen ← view
    let follows := manner.followsAll || (manner.followsFirst && made?.isNone)
    match seen.facts follows ⟨source⟩ with
    | .error fault => failure "cannot stat" source fault.reason
    | .ok facts =>
      let isDirectory := facts.kind = .directory
      if isDirectory && !manner.isDeep then
        let words := if manner.installs then "" else "-r not specified; "
        complain (Bytes.ofString (words ++ "omitting directory ") ++ Quotation.quoted source)
      else if isDirectory && made?.isSome && (seen.locate ⟨source⟩).toOption = made? then
        complainOfBoth "cannot copy a directory, " top.source ", into itself, " top.goal ""
      else
        let isPlain := facts.kind = .file || (!manner.isDeep && facts.kind ≠ .link)
        let looksThrough := isPlain && !manner.asLinks && !manner.asSymbolic
          && manner.backup?.isNone && !manner.removesFirst
        let there := seen.facts looksThrough ⟨goal⟩
        let there? := there.toOption
        match there, ← settle facts there? source goal with
        | .error .notDirectory, _ => failure "cannot stat" goal Fault.notDirectory.reason
        | _, none => return ()
        | _, some kept? =>
          if isDirectory then copyDirectory depth made? facts there? source goal
          else
            let there? := ((← view).facts looksThrough ⟨goal⟩).toOption
            if manner.isVerbose then
              tellKept "" ⟨source, goal⟩ kept?
            if manner.asLinks then
              match ← change fun view _ => view.link follows ⟨source⟩ ⟨goal⟩ with
              | .ok () => pure ()
              | .error fault =>
                complainOfBoth "cannot create hard link " goal " to " source (": " ++ fault.reason)
            else if manner.asSymbolic then
              if source.head? ≠ some separator && goal.contains separator then
                complain (Quotation.shown goal
                  ++ Bytes.ofString ": can make relative symbolic links only in current directory")
              else
                match ← change fun view _ => view.symlink ⟨source⟩ ⟨goal⟩ with
                | .ok () => pure ()
                | .error fault =>
                  complainOfBoth "cannot create symbolic link " goal " to " source
                    (": " ++ fault.reason)
            else
              match facts.kind, linkTarget? seen source with
              | .link, some target =>
                let _ ← change fun view _ => view.unlink ⟨goal⟩
                match ← change fun view _ => view.symlink target ⟨goal⟩ with
                | .ok () => pure ()
                | .error fault => failure "cannot create symbolic link" goal fault.reason
              | .queue, _ =>
                if manner.isDeep then
                  match ← ask (Kernel.Request.makeQueue ⟨goal⟩) with
                  | .ok () => pure ()
                  | .error fault => failure "cannot create fifo" goal fault.reason
                else copyContent manner source goal facts there?.isNone
              | _, _ => copyContent manner source goal facts there?.isNone
where
  /-- Sees to what stands at the goal already. Where the copy is to be made, the answer is the backup
  of that, if there is one. -/
  settle (facts : Facts) (there? : Option Facts) (source goal : Bytes) :
      Tool (Option (Option Bytes)) := do
    match there? with
    | none => return some none
    | some there =>
      let sourceFacts? := ((← view).facts true ⟨source⟩).toOption
      let goalFacts? := ((← view).facts true ⟨goal⟩).toOption
      let isDirectory := facts.kind = .directory
      let isReplaced := manner.removesFirst || manner.backup?.isSome
      let isSame :=
        facts.identity = there.identity
          || (!isDirectory && !manner.asSymbolic && facts.kind ≠ .link
            && (sourceFacts?.map Facts.identity) = (goalFacts?.map Facts.identity)
            && there.kind ≠ .link)
      let isOnePlace := (nameOf source = nameOf goal) && isSameDirectory (← view) source goal
      let isLink := ((← view).facts false ⟨source⟩).toOption.any (·.kind = .link)
      let isSafe := isReplaced && !isOnePlace && (!isLink || facts.kind = .link)
      if isSame && !(isDirectory && there.kind = .directory) && !isSafe then
        complainSame source goal
        return none
      else if manner.onlyNewer && facts.modified ≤ there.modified && !isDirectory then return none
      else if manner.refuses && !isDirectory then return none
      else
        let goesOn ←
          if manner.asks && !isDirectory then
            confirms (Bytes.ofString "overwrite " ++ Quotation.quoted goal)
          else pure true
        let disk := (← view).disk
        let isShared : Bool :=
          match there.identity with
          | .file number => 1 < disk.places number
          | _ => false
        if !goesOn then return none
        else if isDirectory && there.kind ≠ .directory then
          complainOfBoth "cannot overwrite non-directory " goal " with directory " source ""
          return none
        else if !isDirectory && there.kind = .directory then
          complain (Bytes.ofString "cannot overwrite directory " ++ Quotation.quoted goal
            ++ Bytes.ofString " with non-directory")
          return none
        else if isDirectory then return some none
        else
          match manner.backup? with
          | some backup =>
            match ← keepGoal backup ⟨source, goal⟩ "copied" with
            | some kept => return some (some kept)
            | none => return none
          | none =>
            let isLinked := (manner.asLinks || manner.asSymbolic) && manner.isForced
            let isParted := !manner.asLinks && !manner.asSymbolic && manner.keepsLinks && isShared
            if manner.removesFirst || isLinked || isParted then
              let _ ← change fun view _ => view.unlink ⟨goal⟩
              if manner.isVerbose && !isLinked then
                putLine (Bytes.ofString "removed " ++ Quotation.quoted goal)
            return some none
  /-- Both paths lead to entries of one directory. -/
  isSameDirectory (view : View) (path other : Bytes) : Bool :=
    let directory (path : Bytes) : Option Location :=
      (view.locate ⟨(Entry.above? path).getD [ascii '.']⟩).toOption
    directory path = directory other
  /-- Makes the copy of a directory. -/
  copyDirectory (depth : Nat) (made? : Option Location) (facts : Facts) (there? : Option Facts)
      (source goal : Bytes) : Tool Unit := do
    let isThere ←
      if there?.isSome then pure true
      else do
        match ← change fun view umask => view.makeDirectory ⟨goal⟩
            (if manner.keeps then facts.mode else masked facts.mode umask) with
        | .ok () =>
          if manner.isVerbose then
            tell "" source " -> " goal
          pure true
        | .error fault =>
          failure "cannot create directory" goal fault.reason
          pure false
    if isThere then
      let seen ← view
      let made? := if made?.isSome then made? else (seen.locate ⟨goal⟩).toOption
      for name in namesIn seen source do
        copy manner top depth made? ⟨within source name, within goal name⟩

/-- The directories that a path goes through, each with its place below another one, are made there;
whether they are there then. -/
def makeParents (directory : Bytes) (source : Bytes) : Tool Bool := do
  let mut isClear := true
  for path in Entry.beginnings source do
    if isClear then
      let goal := within directory (path.dropWhile (· = separator))
      unless (← view).isDirectory ⟨goal⟩ do
        match ← change fun view umask => view.makeDirectory ⟨goal⟩ (masked 0o777 umask) with
        | .ok () => pure ()
        | .error fault =>
          failure "cannot make directory" goal fault.reason
          isClear := false
  return isClear

/-- Complains that what would be lost can not be kept and left alone. -/
def refuseBoth : Tool Unit :=
  misuse 1 (Bytes.ofString "options --backup and --no-clobber are mutually exclusive")

/-- Copies files, and directories if that is wanted. -/
def copyAll (arguments : List Bytes) : Tool Unit := do
  let given ← options (goalOptions ++ [toggle "a" ["archive"], toggle "d", toggle "f"
    ["force"], toggle "H", toggle "i" ["interactive"], toggle "l" ["link"],
    toggle "L" ["dereference"], toggle "n" ["no-clobber"], toggle "P" ["no-dereference"],
    toggle "p", ⟨"preserve", ["preserve"], .perhaps⟩, toggle "parents" ["parents"],
    setting "keepnot" ["no-preserve"], toggle "R", toggle "r" ["recursive"],
    toggle "s" ["symbolic-link"], toggle "u" ["update"], toggle "v" ["verbose"],
    toggle "x" ["one-file-system"], ⟨"reflink", ["reflink"], .perhaps⟩,
    setting "sparse" ["sparse"], toggle "strip" ["strip-trailing-slashes"],
    toggle "replace" ["remove-destination"], toggle "facts" ["attributes-only"],
    toggle "Z"] ++ Backup.forms) arguments 1
  let isDeep := given.has "a" || given.has "r" || given.has "R"
  let last? := given.last? ["a", "d", "H", "L", "P"]
  let backup? ← Backup.ofGiven? given
  let manner : Manner :=
    { isDeep
      followsFirst := last? = some "H" || last? = some "L" || (last? = none && !isDeep)
      followsAll := last? = some "L" || (last? = none && !isDeep)
      keeps := given.has "a" || given.has "p" || given.has "preserve", isForced := given.has "f"
      refuses := given.last? ["n", "i"] = some "n", asks := given.last? ["n", "i"] = some "i"
      onlyNewer := given.has "u", isVerbose := given.has "v", asLinks := given.has "l"
      asSymbolic := given.has "s", backup?, withParents := given.has "parents"
      removesFirst := given.has "replace", onlyFacts := given.has "facts", installs := false
      keepsLinks := given.has "a" || given.has "d" }
  if manner.asLinks && manner.asSymbolic then
    misuse 1 (Bytes.ofString "cannot make both hard and symbolic links")
  if backup?.isSome && manner.refuses then refuseBoth
  let isUp (path : Bytes) : Bool := nameOf path = [ascii '.', ascii '.']
  let ways := (← waysOf given opensAsDirectory).map fun way =>
    if isUp way.source && isUp way.goal then { way with goal := way.goal.dropLast } else way
  if manner.withParents then
    let directory := (given.value? "t").getD (given.operands.getLast?.getD [])
    unless (← view).isDirectory ⟨directory⟩ do
      misuse 1 (Bytes.ofString "with --parents, the destination must be a directory")
  let mut before : List Bytes := []
  for way in ways do
    let isFile := ((← view).facts manner.followsFirst ⟨way.source⟩).toOption.any
      (·.kind ≠ .directory)
    if before.contains way.source && isFile && backup?.isNone && !manner.withParents then
      warn (Bytes.ofString "warning: source file " ++ Quotation.quoted way.source
        ++ Bytes.ofString " specified more than once")
    else if manner.withParents then
      let directory := (given.value? "t").getD (given.operands.getLast?.getD [])
      let source := (way.source.reverse.dropWhile (· = separator)).reverse
      if ← makeParents directory source then
        let goal := within directory (source.dropWhile (· = separator))
        copy manner ⟨source, goal⟩ depthLimit none ⟨source, goal⟩
    else copy manner way depthLimit none way
    before := way.source :: before

/-- How things are moved. -/
structure Removal where
  refuses : Bool
  asks : Bool
  onlyNewer : Bool
  isVerbose : Bool
  backup? : Option Backup

/-- What stands in the way of moving something to where something else is: nothing, where one of them
can be what the other one is. -/
def unlike? (source goal : Bytes) (facts there : Facts) : Option (Tool Unit) :=
  if facts.kind = .directory && there.kind ≠ .directory then
    some (complainOfBoth "cannot overwrite non-directory " goal " with directory " source "")
  else if facts.kind ≠ .directory && there.kind = .directory then
    some (complain (Bytes.ofString "cannot overwrite directory " ++ Quotation.quoted goal
      ++ Bytes.ofString " with non-directory"))
  else none

/-- Gives what stands at a place another one instead. -/
def moveOne (removal : Removal) (way : Way) : Tool Unit := do
  let (source, goal) := (way.source, way.goal)
  let seen ← view
  match seen.facts false ⟨source⟩ with
  | .error fault => failure "cannot stat" source fault.reason
  | .ok facts =>
    let there := seen.facts false ⟨goal⟩
    let there? := there.toOption
    let refusal? : Option (Tool Unit) :=
      match there with
      | .error .notDirectory => some (failure "cannot stat" goal Fault.notDirectory.reason)
      | .error _ => none
      | .ok there =>
        let isOnePlace := facts.kind = .directory
          || (nameOf source = nameOf goal && copy.isSameDirectory seen source goal)
        if facts.identity = there.identity && (removal.backup?.isNone || isOnePlace) then
          some (complainSame source goal)
        else if removal.onlyNewer && facts.modified ≤ there.modified
            && facts.kind ≠ .directory then some (return ())
        else if removal.refuses then some (return ())
        else none
    match refusal? with
    | some refusal => refusal
    | none =>
      let goesOn ←
        if removal.asks && there?.isSome then
          confirms (Bytes.ofString "overwrite " ++ Quotation.quoted goal)
        else pure true
      let unlike? :=
        if removal.backup?.isSome then none else there?.bind (unlike? source goal facts)
      let goesOn ←
        match unlike? with
        | some refusal =>
          if goesOn then refusal
          pure false
        | none => pure goesOn
      let keeping? := if there?.isSome then removal.backup? else none
      let kept? ←
        match keeping? with
        | some backup => if goesOn then keepGoal backup way "moved" else pure none
        | none => pure none
      if goesOn && kept?.isSome = keeping?.isSome then
        match ← change fun view _ => view.rename ⟨source⟩ ⟨goal⟩ with
        | .ok () =>
          if removal.isVerbose then
            tellKept "renamed " way kept?
        | .error fault =>
          if fault = .invalid then
            complainOfBoth "cannot move " source " to a subdirectory of itself, " goal ""
          else complainOfBoth "cannot move " source " to " goal (": " ++ fault.reason)

/-- Gives files and directories other places. -/
def moveAll (arguments : List Bytes) : Tool Unit := do
  let given ← options (goalOptions ++ [toggle "f" ["force"], toggle "i" ["interactive"],
    toggle "n" ["no-clobber"], toggle "strip" ["strip-trailing-slashes"], toggle "u" ["update"],
    toggle "v" ["verbose"], toggle "Z" ["context"]] ++ Backup.forms) arguments 1
  let last? := given.last? ["f", "i", "n"]
  let backup? ← Backup.ofGiven? given
  let removal : Removal :=
    ⟨last? = some "n", last? = some "i", given.has "u", given.has "v", backup?⟩
  let ways ← waysOf given opensAsDirectory
  if backup?.isSome && removal.refuses then refuseBoth
  let mut made : List Bytes := []
  for way in ways do
    if made.contains way.goal && ((← view).facts false ⟨way.source⟩).toOption.isSome then
      complainOfBoth "will not overwrite just-created " way.goal " with " way.source ""
    else moveOne removal way
    if 1 < ways.length then
      made := way.goal :: made

/-- A path as it leads from a directory to a place; both are given by names from the top. -/
def relative : List Bytes → List Bytes → Bytes
  | a :: base, b :: place =>
    if a = b then relative base place else upwards (a :: base) (b :: place)
  | base, place => upwards base place
where
  upwards (base place : List Bytes) : Bytes :=
    let steps := base.map (fun _ => Bytes.ofString "..") ++ place
    if steps.isEmpty then [ascii '.'] else Text.joinWith separator steps

/-- The absolute path that a path denotes, links followed as far as there is something. `fuel` bounds
the segments that are missing. -/
def settled (view : View) : Nat → Bytes → Option Bytes
  | 0, _ => none
  | fuel + 1, path =>
    match view.canonical ⟨path⟩ with
    | .ok found => some found.bytes
    | .error _ =>
      let path := (path.reverse.dropWhile (· = separator)).reverse
      let name := (path.reverse.takeWhile (· ≠ separator)).reverse
      let above := (path.reverse.dropWhile (· ≠ separator)).reverse
      let above := if above = [] then [ascii '.'] else above
      if path = [] || name = [] then none
      else (settled view fuel above).map fun above => within above name

/-- The names in an absolute path. -/
def namesOf (path : Bytes) : List Bytes :=
  (Text.splitAt separator path).filter (· ≠ [])

/-- How links are made. -/
structure Linking where
  isSymbolic : Bool
  isForced : Bool
  asks : Bool
  isVerbose : Bool
  isRelative : Bool
  follows : Bool
  backup? : Option Backup

/-- Makes one link. -/
def linkOne (linking : Linking) (way : Way) : Tool Unit := do
  let (source, goal) := (way.source, way.goal)
  let seen ← view
  let facts? := seen.facts linking.follows ⟨source⟩
  match linking.isSymbolic, facts? with
  | false, .error fault => failure "failed to access" source fault.reason
  | isSymbolic, facts? =>
    if !isSymbolic && facts?.toOption.any (·.kind = .directory) then
      complain (Quotation.shown source ++ Bytes.ofString ": hard link not allowed for directory")
    else
      let target :=
        if isSymbolic && linking.isRelative then
          let above := (Entry.above? goal).getD [ascii '.']
          match settled seen 200 source, settled seen 200 above with
          | some place, some base => relative (namesOf base) (namesOf place)
          | _, _ => source
        else source
      let there := seen.facts false ⟨goal⟩
      let there? := there.toOption
      let isSame := there?.isSome && (seen.facts true ⟨source⟩).toOption.map Facts.identity
        = there?.map Facts.identity
      let isOnePlace := nameOf source = nameOf goal && copy.isSameDirectory seen source goal
      let replaces := linking.isForced || linking.asks || linking.backup?.isSome
      let isAlone : Bool :=
        match there?.map Facts.identity with
        | some (.file number) => seen.disk.places number ≤ 1
        | _ => true
      let isBlocked : Bool :=
        match there with
        | .error fault => replaces && fault ≠ .notFound
        | .ok _ => false
      if isBlocked then failure "failed to access" goal Fault.notDirectory.reason
      else if replaces && isSame && (isOnePlace || isAlone)
          && (linking.backup?.isNone || !isSymbolic) && there?.all (·.kind ≠ .directory) then
        complainSame source goal
      else if replaces && there?.any (·.kind = .directory) then
        complain (Quotation.shown goal ++ Bytes.ofString ": cannot overwrite directory")
      else
        let goesOn ←
          if linking.asks && there?.isSome then
            confirms (Bytes.ofString "replace " ++ Quotation.quoted goal)
          else pure true
        let keeping? := if there?.isSome then linking.backup? else none
        let kept? ←
          match keeping? with
          | some backup => if goesOn then keepGoal backup way "linked" else pure none
          | none => pure none
        if goesOn && kept?.isSome = keeping?.isSome then
          if keeping?.isNone && (linking.isForced || linking.asks) && there?.isSome then
            let _ ← change fun view _ => view.unlink ⟨goal⟩
          let made ← change fun view _ =>
            if isSymbolic then view.symlink ⟨target⟩ ⟨goal⟩
            else view.link linking.follows ⟨source⟩ ⟨goal⟩
          match made with
          | .ok () =>
            if linking.isVerbose then
              match kept? with
              | some kept => put (Quotation.quoted kept ++ Bytes.ofString " ~ ")
              | none => pure ()
              tell "" goal (if isSymbolic then " -> " else " => ") target
          | .error fault =>
            if isSymbolic then
              if target = [] then
                complainOfBoth "failed to create symbolic link " goal " -> " target
                  (": " ++ fault.reason)
              else failure "failed to create symbolic link" goal fault.reason
            else if fault = .alreadyExists then
              failure "failed to create hard link" goal fault.reason
            else complainOfBoth "failed to create hard link " goal " => " source (": " ++ fault.reason)

/-- Makes links. -/
def linkAll (arguments : List Bytes) : Tool Unit := do
  let given ← options (goalOptions ++ [toggle "d", toggle "F", toggle "f" ["force"], toggle "i" ["interactive"], toggle "L" ["logical"],
    toggle "n" ["no-dereference"], toggle "P" ["physical"], toggle "r" ["relative"],
    toggle "s" ["symbolic"], toggle "v" ["verbose"]] ++ Backup.forms) arguments 1
  let last? := given.last? ["f", "i"]
  let linking : Linking := ⟨given.has "s", last? = some "f", last? = some "i", given.has "v",
    given.has "r", given.last? ["L", "P"] = some "L", ← Backup.ofGiven? given⟩
  if given.operands.isEmpty then
    misuse 1 (Bytes.ofString "missing file operand")
  if linking.isRelative && !linking.isSymbolic then
    failWith 1 (Bytes.ofString "cannot do --relative without --symbolic")
  if given.has "T" && given.has "t" then
    failWith 1 (Bytes.ofString "cannot combine --target-directory and --no-target-directory")
  let opens (view : View) (path : Bytes) : Except Fault Unit :=
    if given.has "n" && (linkTarget? view path).isSome then .error .notDirectory
    else opensAsDirectory view path
  let ways ←
    match given.operands, given.value? "t", given.has "T" with
    | [source], none, false => pure [⟨source, within [ascii '.'] (nameOf source)⟩]
    | _, _, _ => waysOf given opens "failed to access "
  for way in ways do
    linkOne linking way

/-- The directories on the way to a path, and itself, are made where they are missing. -/
def installDirectory (isVerbose : Bool) (path : Bytes) : Tool Bool := do
  let mut isClear := true
  for directory in Entry.beginnings path ++ [path] do
    if isClear && !(← view).isDirectory ⟨directory⟩ then
      match ← Entry.makeOnTheWay false directory with
      | .ok () =>
        if isVerbose then
          putLine ((← get).name ++ Bytes.ofString ": creating directory "
            ++ Quotation.quoted directory)
      | .error fault =>
        let isThere := ((← view).stat ⟨directory⟩).toOption.isSome
        let fault := if isThere then .alreadyExists else fault
        failure "cannot create directory" directory fault.reason
        isClear := false
  return isClear

/-- Copies files to where they are used, with permissions that are laid down. -/
def install (arguments : List Bytes) : Tool Unit := do
  let given ← options (goalOptions ++ [toggle "c", toggle "C" ["compare"],
    toggle "d" ["directory"], toggle "D", setting "g" ["group"], setting "m" ["mode"],
    setting "o" ["owner"], toggle "p" ["preserve-timestamps"], toggle "s" ["strip"],
    toggle "v" ["verbose"]] ++ Backup.forms) arguments 1
  let isVerbose := given.has "v"
  let backup? ← Backup.ofGiven? given
  if given.has "d" && given.has "t" then
    failWith 1 (Bytes.ofString "target directory not allowed when installing a directory")
  if given.operands.isEmpty then
    misuse 1 (Bytes.ofString "missing file operand")
  if given.has "C" && given.has "p" then
    misuse 1 (Bytes.ofString
      "options --compare (-C) and --preserve-timestamps are mutually exclusive")
  let mode ←
    match given.value? "m" with
    | none => pure 0o755
    | some text =>
      match Mode.changed? text 0 false 0 with
      | some mode => pure mode
      | none => failWith 1 (Bytes.ofString "invalid mode " ++ Quotation.cited text)
  if given.has "d" then
    for path in given.operands do
      if ← installDirectory isVerbose path then
        let _ ← change fun view _ => view.setMode ⟨path⟩ fun _ _ => mode
  else
    if given.has "D" then
      match given.value? "t" with
      | some directory =>
        let _ ← installDirectory isVerbose directory
      | none =>
        match (given.operands.getLast?).bind Entry.above? with
        | some directory =>
          let _ ← installDirectory isVerbose directory
        | none => pure ()
    let manner : Manner :=
      { isDeep := false, followsFirst := true, followsAll := true, keeps := given.has "p"
        isForced := true, refuses := false, asks := false, onlyNewer := false, isVerbose
        asLinks := false, asSymbolic := false, backup?, withParents := false
        removesFirst := true, keepsLinks := false, onlyFacts := false, installs := true }
    for way in ← waysOf given opensAsDirectory "failed to access " do
      copy manner way depthLimit none way
      let seen ← view
      let isFile (path : Bytes) : Bool := (seen.facts true ⟨path⟩).toOption.any (·.kind ≠ .directory)
      if isFile way.source && isFile way.goal then
        let _ ← change fun view _ => view.setMode ⟨way.goal⟩ fun _ _ => mode

end ChangelogSql.Utility.Transfer
