import ChangelogSql.Files.Change
import ChangelogSql.Files.Mode
import ChangelogSql.Utility.Calendar
import ChangelogSql.Utility.Input
import ChangelogSql.Utility.Option

/-!
The programs that make entries of directories and take them away.
-/

namespace ChangelogSql.Utility.Entry

open Text (ascii)
open Files Kernel
open Tool

/-- Changes the disk, where that is allowed. -/
def change (change : View → Nat → Except Fault Disk) : Tool (Except Fault Unit) :=
  ask (Kernel.Request.change change)

/-- Complains that something could not be done with a path. -/
def failure (words : String) (path : Bytes) (reason : String) : Tool Unit :=
  complain (Bytes.ofString (words ++ " ") ++ Quotation.quoted path ++ Bytes.ofString (": " ++ reason))

/-- Complains that an operand is missing where there is none. -/
def require (operands : List Bytes) (words : String) : Tool Unit := do
  if operands.isEmpty then
    misuse 1 (Bytes.ofString words)

/-- The beginnings of a path that end before a segment, without those whose last segment says
nothing. -/
def beginnings (path : Bytes) : List Bytes :=
  let segments := Text.splitAt separator path
  let counts := (List.range segments.length).filter fun count =>
    let segment := (segments[count]?).getD []
    0 < count && segment ≠ [] && ((segments.take count).any (· ≠ []))
  let cut (count : Nat) : Bytes :=
    let joined := Text.joinWith separator (segments.take count)
    (joined.reverse.dropWhile (· = separator)).reverse
  let isSilent (path : Bytes) : Bool := Path.silent (lastSegment ⟨path⟩)
  ((counts.map cut).eraseDups).filter fun path => path ≠ [] && !isSilent path

/-- Makes a directory on the way to another; what went wrong where it is missing after that. -/
def makeOnTheWay (isVerbose : Bool) (path : Bytes) : Tool (Except Fault Unit) := do
  let made ← change fun view umask =>
    view.makeDirectory ⟨path⟩ (masked 0o777 (umask - (umask &&& 0o300)))
  let seen ← view
  match made, seen.stat ⟨path⟩ with
  | .ok (), _ =>
    if isVerbose then
      let name := (← get).name
      putLine (name ++ Bytes.ofString ": created directory " ++ Quotation.quoted path)
    return .ok ()
  | .error _, .ok (.directory ..) => return .ok ()
  | .error _, .ok _ => return .error .notDirectory
  | .error fault, .error other => return .error (if other = .notFound then fault else other)

/-- Makes directories on the way; whether all of them are there then. -/
def makeAll (isVerbose : Bool) : List Bytes → Tool Bool
  | [] => return true
  | path :: rest => do
    match ← makeOnTheWay isVerbose path with
    | .ok () => makeAll isVerbose rest
    | .error fault =>
      failure "cannot create directory" path fault.reason
      return false

/-- Makes directories. -/
def makeDirectories (arguments : List Bytes) : Tool Unit := do
  let given ← options [setting "m" ["mode"], toggle "p" ["parents"], toggle "v" ["verbose"],
    toggle "Z" ["context"]] arguments 1
  require given.operands "missing operand"
  match given.value? "m" with
  | some text =>
    if (Mode.changed? text 0 true 0o777).isNone then
      failWith 1 (Bytes.ofString "invalid mode " ++ Quotation.cited text)
  | none => pure ()
  let isVerbose := given.has "v"
  for path in given.operands do
    let wayIsClear ← if given.has "p" then makeAll isVerbose (beginnings path) else pure true
    if wayIsClear then
      let made ← change fun view umask =>
        let mode :=
          match given.value? "m" with
          | some text => (Mode.changed? text umask true 0o777).getD 0o777
          | none => masked 0o777 umask
        view.makeDirectory ⟨path⟩ mode
      match made with
      | .ok () =>
        if isVerbose then
          putLine ((← get).name ++ Bytes.ofString ": created directory " ++ Quotation.quoted path)
      | .error fault =>
        unless given.has "p" && (← view).isDirectory ⟨path⟩ do
          failure "cannot create directory" path fault.reason

/-- The path without its last segment; nothing where there is only one. -/
def above? (path : Bytes) : Option Bytes :=
  let path := (path.reverse.dropWhile (· = separator)).reverse
  let rest := (path.reverse.dropWhile (· ≠ separator)).dropWhile (· = separator)
  if rest = [] then none else some rest.reverse

/-- Takes away a directory and those above it that its path names, as long as they are empty. `fuel`
bounds their number. -/
def removeChain (isVerbose ignores parents : Bool) : Nat → Bool → Bytes → Tool Unit
  | 0, _, _ => return ()
  | fuel + 1, isFirst, path => do
    if isVerbose then
      putLine ((← get).name ++ Bytes.ofString ": removing directory, " ++ Quotation.quoted path)
    match ← change fun view _ => view.removeDirectory ⟨path⟩ with
    | .ok () =>
      match if parents then above? path else none with
      | some path => removeChain isVerbose ignores parents fuel false path
      | none => return ()
    | .error fault =>
      let isLink := isTrailed ⟨path⟩ && ((← view).facts false ⟨(path.reverse.dropWhile
        (· = separator)).reverse⟩).toOption.any (·.kind = .link)
      if fault = .notDirectory && isLink then
        failure "failed to remove" path "Symbolic link not followed"
      else unless ignores && fault = .notEmpty do
        failure (if isFirst then "failed to remove" else "failed to remove directory") path
          fault.reason

/-- Takes away empty directories. -/
def removeDirectories (arguments : List Bytes) : Tool Unit := do
  let given ← options [toggle "p" ["parents"], toggle "v" ["verbose"],
    toggle "ignore" ["ignore-fail-on-non-empty"]] arguments 1
  require given.operands "missing operand"
  for path in given.operands do
    removeChain (given.has "v") (given.has "ignore") (given.has "p") (path.length + 1) true path

/-- How a removal is done. -/
structure Removal where
  isForced : Bool
  isDeep : Bool
  emptyToo : Bool
  asks : Bool
  isVerbose : Bool

/-- Asks a question and waits for an answer; whether it was yes. -/
def confirms (question : Bytes) : Tool Bool := do
  flush
  emit ((← get).name ++ Bytes.ofString ": " ++ question ++ Bytes.ofString "? ")
  match ← line 0 with
  | .ok (some (b :: _, _)) => return b = ascii 'y' || b = ascii 'Y'
  | _ => return false

/-- What a thing is called in a question about it. -/
def describe (facts : Facts) : String :=
  match facts.kind with
  | .file => if facts.size = 0 then "regular empty file" else "regular file"
  | .directory => "directory"
  | .link => "symbolic link"
  | .device => "character special file"
  | .queue => "fifo"

/-- A path continued by a name. -/
def within (path name : Bytes) : Bytes :=
  (Path.join ⟨path⟩ ⟨name⟩).bytes

/-- How deep directories are gone into at most. -/
def depthLimit : Nat := 10000

/-- Takes away what stands at a path, with all that is in it if that is wanted. -/
def remove (removal : Removal) : Nat → Bytes → Tool Unit
  | 0, _ => return ()
  | depth + 1, path => do
    match (← view).facts false ⟨path⟩ with
    | .error fault =>
      unless removal.isForced && (fault = .notFound || fault = .notDirectory) do
        failure "cannot remove" path fault.reason
    | .ok facts =>
      if facts.kind = .directory then
        let entries :=
          match (← view).linkStat ⟨path⟩ with
          | .ok (.directory _ entries) => entries.toList
          | _ => []
        if !removal.isDeep && !removal.emptyToo then
          failure "cannot remove" path Fault.isDirectory.reason
        else if !removal.isDeep && !entries.isEmpty then
          failure "cannot remove" path Fault.notEmpty.reason
        else
          let goesIn ←
            if removal.asks && !entries.isEmpty then
              confirms (Bytes.ofString "descend into directory " ++ Quotation.quoted path)
            else pure true
          if goesIn then
            for (name, _) in entries do
              remove removal depth (within path name.bytes)
            let goesOn ←
              if removal.asks then
                confirms (Bytes.ofString "remove directory " ++ Quotation.quoted path)
              else pure true
            if goesOn then
              match ← change fun view _ => view.removeDirectory ⟨path⟩ with
              | .ok () =>
                if removal.isVerbose then
                  putLine (Bytes.ofString "removed directory " ++ Quotation.quoted path)
              | .error fault =>
                unless removal.isForced && (fault = .notFound || fault = .notDirectory) do
                  failure "cannot remove" path fault.reason
      else
        let goesOn ←
          if removal.asks then
            confirms (Bytes.ofString ("remove " ++ describe facts ++ " ") ++ Quotation.quoted path)
          else pure true
        if goesOn then
          match ← change fun view _ => view.unlink ⟨path⟩ with
          | .ok () =>
            if removal.isVerbose then
              putLine (Bytes.ofString "removed " ++ Quotation.quoted path)
          | .error fault => failure "cannot remove" path fault.reason

/-- The options of a removal. Where they are not understood because of a file whose name looks like
options, there is a hint how it can be named. -/
def removalOptions (arguments : List Bytes) : Tool Given := do
  let forms := [toggle "f" ["force"], toggle "i", toggle "I",
    ⟨"interactive", ["interactive"], .perhaps⟩, toggle "r" ["recursive"], toggle "R",
    toggle "d" ["dir"], toggle "v" ["verbose"], toggle "one" ["one-file-system"],
    toggle "root" ["no-preserve-root"], ⟨"preserve", ["preserve-root"], .perhaps⟩]
  match Options.ofArguments forms true arguments with
  | .ok given => return given
  | .error refusal =>
    warn refusal
    let seen ← view
    let isThere (argument : Bytes) : Bool :=
      argument.head? = some (ascii '-') && 1 < argument.length
        && (seen.facts false ⟨argument⟩).toOption.isSome
    match arguments.find? isThere with
    | some argument =>
      emit (Bytes.ofString "Try '" ++ (← get).name ++ Bytes.ofString " ./" ++ argument
        ++ Bytes.ofString "' to remove the file " ++ Quotation.quoted argument
        ++ Bytes.ofString ".\n")
    | none => pure ()
    hint
    setCode 1
    stop

/-- Takes away files, and directories if that is wanted. -/
def removeAll (arguments : List Bytes) : Tool Unit := do
  let given ← removalOptions arguments
  let last? := given.last? ["f", "i", "I", "interactive"]
  let manner := ((given.value? "interactive").map Bytes.shown).getD "always"
  unless ["never", "no", "none", "once", "always", "yes"].contains manner do
    warn (Bytes.ofString "invalid argument " ++ Quotation.cited (Bytes.ofString manner)
      ++ Bytes.ofString " for '--interactive'")
    emit (Bytes.ofString ("Valid arguments are:\n  - 'never', 'no', 'none'\n  - 'once'\n"
      ++ "  - 'always', 'yes'\n"))
    hint
    setCode 1
    stop
  let asksKeys := if ["never", "no", "none"].contains manner then [] else ["interactive"]
  let isForced := given.last? (["f", "i", "I"] ++ asksKeys) = some "f"
  if given.operands.isEmpty && !isForced then
    misuse 1 (Bytes.ofString "missing operand")
  let isDeep := given.has "r" || given.has "R"
  let removal : Removal := ⟨isForced, isDeep, given.has "d",
    last? = some "i" || (last? = some "interactive" && (manner = "always" || manner = "yes")),
    given.has "v"⟩
  let asksOnce := last? = some "I" || (last? = some "interactive" && manner = "once")
  let goesOn ←
    if asksOnce && !given.operands.isEmpty && (isDeep || 3 < given.operands.length) then
      let count := given.operands.length
      confirms (Bytes.ofString ("remove " ++ toString count
        ++ (if count = 1 then " argument" else " arguments") ++ (if isDeep then " recursively" else "")))
    else pure true
  if goesOn then
    for path in given.operands do
      if isDeep && endsRelative ⟨path⟩ && (← view).isDirectory ⟨path⟩ then
        complain (Bytes.ofString "refusing to remove '.' or '..' directory: skipping "
          ++ Quotation.quoted path)
      else if isDeep && path ≠ [] && path.all (· = separator) && !given.has "root" then
        warn (Bytes.ofString "it is dangerous to operate recursively on " ++ Quotation.quoted path)
        complain (Bytes.ofString "use --no-preserve-root to override this failsafe")
      else remove removal depthLimit path

/-- Takes away one file. -/
def unlink (arguments : List Bytes) : Tool Unit := do
  let given ← options [] arguments 1
  match given.operands with
  | [] => misuse 1 (Bytes.ofString "missing operand")
  | [path] =>
    match ← change fun view _ => view.unlink ⟨path⟩ with
    | .ok () => return ()
    | .error fault => failure "cannot unlink" path fault.reason
  | _ :: other :: _ => misuse 1 (Bytes.ofString "extra operand " ++ Quotation.cited other)

/-- Gives a file one more place. -/
def link (arguments : List Bytes) : Tool Unit := do
  let given ← options [] arguments 1
  match given.operands with
  | [] => misuse 1 (Bytes.ofString "missing operand")
  | [path] => misuse 1 (Bytes.ofString "missing operand after " ++ Quotation.cited path)
  | [path, other] =>
    match ← change fun view _ => view.link false ⟨path⟩ ⟨other⟩ with
    | .ok () => return ()
    | .error fault =>
      complain (Bytes.ofString "cannot create link " ++ Quotation.quoted other
        ++ Bytes.ofString " to " ++ Quotation.quoted path ++ Bytes.ofString (": " ++ fault.reason))
  | _ :: _ :: other :: _ => misuse 1 (Bytes.ofString "extra operand " ++ Quotation.cited other)

/-- Makes a file where there is none; what went wrong. -/
def makeFile (path : Bytes) : Tool (Except Fault Unit) := do
  let purpose : Purpose := ⟨false, true, true, false, false, false⟩
  match ← ask (Kernel.Request.openPath ⟨path⟩ purpose 0o666) with
  | .ok descriptor => ask (Kernel.Request.close descriptor)
  | .error fault => return .error fault

/-- Lets a file seem to have been changed at a time. -/
def setTime (path : Bytes) (time : Nat) : Tool (Except Fault Unit) :=
  change fun view _ =>
    match view.stat ⟨path⟩ with
    | .ok (.file number) => .ok (view.disk.alterFile number ({ · with modified := time }))
    | .ok _ => .ok view.disk
    | .error fault => .error fault

/-- Lets files seem to have been changed, and makes those that are missing. -/
def touch (arguments : List Bytes) : Tool Unit := do
  let given ← options [toggle "a", toggle "c" ["no-create"], setting "d" ["date"], toggle "f",
    toggle "h" ["no-dereference"], toggle "m", setting "r" ["reference"], setting "t",
    setting "time" ["time"]] arguments 1
  let clock ← ask (Kernel.Request.look fun _ system => system.disk.clock)
  let thisYear := (Moment.ofSeconds (clock / 1000000000 : Nat)).day.year
  let ofMoment (text : Bytes) (moment? : Option Moment) : Tool Nat :=
    match moment? with
    | some moment => return (moment.seconds * 1000000000).toNat
    | none => failWith 1 (Bytes.ofString "invalid date format " ++ Quotation.cited text)
  if given.has "t" && (given.has "r" || given.has "d") then
    misuse 1 (Bytes.ofString "cannot specify times from more than one source")
  let time ←
    match given.value? "r", given.value? "t", given.value? "d" with
    | some path, _, none =>
      match (← view).facts true ⟨path⟩ with
      | .ok facts => pure facts.modified
      | .error fault =>
        failWith 1 (Bytes.ofString "failed to get attributes of " ++ Quotation.quoted path
          ++ Bytes.ofString (": " ++ fault.reason))
    | _, some text, _ => ofMoment text (Moment.ofStamp? thisYear text)
    | _, none, some text =>
      if text = Bytes.ofString "now" then pure clock else ofMoment text (Moment.ofText? text)
    | none, none, none => pure clock
  require given.operands "missing file operand"
  for path in given.operands do
    if path = [ascii '-'] then pure ()
    else
      let seen ← view
      match seen.facts (!given.has "h") ⟨path⟩ with
      | .ok _ =>
        unless given.has "h" && (seen.facts false ⟨path⟩).toOption.any (·.kind = .link) do
          match ← setTime path time with
          | .ok () => pure ()
          | .error fault => failure "setting times of" path fault.reason
      | .error fault =>
        if given.has "c" || given.has "h" then
          unless fault = .notFound && given.has "c" do
            failure "setting times of" path fault.reason
        else
          match ← makeFile path with
          | .ok () =>
            let _ ← setTime path time
          | .error other =>
            if other = .isDirectory || (other = .notDirectory && isTrailed ⟨path⟩) then
              failure "setting times of" path fault.reason
            else failure "cannot touch" path other.reason

/-- Makes named pipes. -/
def makePipes (arguments : List Bytes) : Tool Unit := do
  let given ← options [setting "m" ["mode"], toggle "Z" ["context"]] arguments 1
  require given.operands "missing operand"
  for path in given.operands do
    match ← ask (Kernel.Request.makeQueue ⟨path⟩) with
    | .ok () => pure ()
    | .error fault => failure "cannot create fifo" path fault.reason

/-- The size that a text lays down for a file of a size. -/
def sizeOf? (text : Bytes) (size : Nat) : Option Nat :=
  let (operator, digits) :=
    match text with
    | b :: rest => if (Bytes.ofString "+-<>/%").contains b then (b, rest) else (0, text)
    | [] => (0, [])
  let number := digits.takeWhile Text.Ascii.isDigit
  let factor? :=
    match Bytes.shown (digits.drop number.length) with
    | "" => some 1
    | "K" | "k" => some 1024
    | "M" => some 1048576
    | "KB" => some 1000
    | _ => none
  match factor? with
  | none => none
  | some factor =>
    if number = [] then none
    else
      let value := Text.Ascii.value 10 number * factor
      if operator = ascii '+' then some (size + value)
      else if operator = ascii '-' then some (size - value)
      else if operator = ascii '<' then some (min size value)
      else if operator = ascii '>' then some (max size value)
      else if operator = ascii '/' then
        if value = 0 then none else some (size / value * value)
      else if operator = ascii '%' then
        if value = 0 then none else some ((size + value - 1) / value * value)
      else some value

/-- Gives files a size. -/
def truncate (arguments : List Bytes) : Tool Unit := do
  let given ← options [toggle "c" ["no-create"], toggle "o" ["io-blocks"],
    setting "r" ["reference"], setting "s" ["size"]] arguments 1
  let reference? ←
    match given.value? "r" with
    | none => pure none
    | some path =>
      match (← view).facts true ⟨path⟩ with
      | .ok facts => pure (some facts.size)
      | .error fault =>
        failWith 1 (Bytes.ofString "cannot stat " ++ Quotation.quoted path
          ++ Bytes.ofString (": " ++ fault.reason))
  if given.value? "s" = none && reference? = none then
    misuse 1 (Bytes.ofString "you must specify either '--size' or '--reference'")
  require given.operands "missing file operand"
  match given.value? "s" with
  | some text =>
    if (sizeOf? text 0).isNone then
      failWith 1 (Bytes.ofString "Invalid number: " ++ Quotation.cited text)
  | none => pure ()
  for path in given.operands do
    let seen ← view
    let isThere := (seen.stat ⟨path⟩).toOption.isSome
    if isThere || !given.has "c" then
      let made ← if isThere then pure (.ok ()) else makeFile path
      match made with
      | .error fault => failure "cannot open" path (fault.reason ++ "")
      | .ok () =>
        let changed ← change fun view _ =>
          match view.stat ⟨path⟩ with
          | .ok (.file number) =>
            match view.disk.contentOf number with
            | .ok bytes =>
              let size :=
                match given.value? "s" with
                | some text => (sizeOf? text (reference?.getD bytes.length)).getD bytes.length
                | none => reference?.getD bytes.length
              let content := bytes.take size ++ List.replicate (size - bytes.length) 0
              .ok (view.disk.setContent number (.bytes content))
            | .error fault => .error fault
          | .ok (.directory ..) => .error .isDirectory
          | .ok _ => .error .invalid
          | .error fault => .error fault
        match changed with
        | .ok () => pure ()
        | .error fault =>
          complain (Bytes.ofString "cannot open " ++ Quotation.quoted path
            ++ Bytes.ofString (" for writing: " ++ fault.reason))

/-- The characters that stand for those of a template. -/
def nameLetters : Bytes :=
  Bytes.ofString "abcdefghijklmnopqrstuvwxyzABCDEFGHIJKLMNOPQRSTUVWXYZ0123456789"

/-- So many letters for a name, out of a number. -/
def letters : Nat → Nat → Bytes
  | 0, _ => []
  | count + 1, number =>
    (nameLetters[number % 62]?).getD (ascii 'a') :: letters count (number / 62 * 7 + number % 61)

/-- Makes a file or directory of a new name. -/
def makeTemporary (call : Programs.Call) : Tool Unit := do
  let given ← options [toggle "d" ["directory"], toggle "u" ["dry-run"], toggle "q" ["quiet"],
    ⟨"p", ["tmpdir"], .perhaps⟩, setting "suffix" ["suffix"], toggle "t"]
    (separated call.arguments) 1
  match given.operands with
  | _ :: _ :: _ => misuse 1 (Bytes.ofString "too many templates")
  | _ => pure ()
  let inPlace := given.operands.isEmpty || given.has "p" || given.has "t"
  let template := given.operands.headD (Bytes.ofString "tmp.XXXXXXXXXX")
  let suffix := (given.value? "suffix").getD []
  let tail := (template.reverse.takeWhile (· ≠ ascii 'X')).reverse
  let stem := template.take (template.length - tail.length)
  let marks := (stem.reverse.takeWhile (· = ascii 'X')).length
  if marks < 3 then
    failWith 1 (Bytes.ofString "too few X's in template " ++ Quotation.cited template)
  let usual := (call.environment.lookup (Bytes.ofString "TMPDIR")).getD (Bytes.ofString "/tmp")
  let usual := if usual = [] then Bytes.ofString "/tmp" else usual
  let directory := (given.value? "p").getD usual
  let directory := if directory = [] then usual else directory
  let clock ← ask (Kernel.Request.look fun process system => system.disk.clock + process.number * 911)
  let name := stem.take (stem.length - marks) ++ letters marks (clock / 7) ++ tail ++ suffix
  let path := if inPlace then within directory name else name
  let whole := if inPlace then within directory template else template
  let made ←
    if given.has "u" then pure (.ok ())
    else if given.has "d" then change fun view _ => view.makeDirectory ⟨path⟩ 0o700
    else do
      match ← ask (Kernel.Request.openPath ⟨path⟩ Purpose.creating 0o600) with
      | .ok descriptor => ask (Kernel.Request.close descriptor)
      | .error fault => pure (.error fault)
  match made with
  | .ok () => putLine path
  | .error fault =>
    if given.has "q" then setCode 1
    else
      failure (if given.has "d" then "failed to create directory via template"
        else "failed to create file via template") (whole ++ suffix) fault.reason
where
  /-- Arguments in which a directory that follows its letter is in the same word. -/
  separated (arguments : List Bytes) : List Bytes :=
    match arguments with
    | [0x2D, 0x70] :: directory :: rest =>
      (Bytes.ofString "--tmpdir=" ++ directory) :: separated rest
    | argument :: rest => argument :: separated rest
    | [] => []

end ChangelogSql.Utility.Entry
