import ChangelogSql.Utility.Editing.Substitution
import ChangelogSql.Utility.Entry

/-!
The stream editor: a script is gone through for every line of the input.
-/

namespace ChangelogSql.Utility.Editing

open Text (ascii)
open Files Kernel
open Tool
open Expression (Program)

/-- A line without the byte that ends it, and whether that byte was there. -/
structure Line where
  text : Bytes
  hasEnd : Bool

/-- How far a range of lines has come. -/
inductive Progress where
  | idle
  /-- It ends at a line, where that is known. -/
  | running (stop? : Option Nat)
  | closed

/-- What is put out before the next line is read. -/
inductive Appendix where
  | text (bytes : Bytes)
  | file (path : Bytes)

/-- Where something is put out. -/
inductive Sink where
  | output
  /-- The output under another name. -/
  | alias
  | descriptor (number : Nat)
  /-- What will take the place of the file that is read. -/
  | collection
  deriving DecidableEq

/-- How the editor works. -/
structure Manner where
  script : Script
  isQuiet : Bool
  isSeparate : Bool
  /-- Files are edited in place; what is added to the name of the old ones. -/
  inPlace? : Option (Option Bytes)
  ending : UInt8
  width : Nat

/-- What the editor has at hand. -/
structure Desk where
  space : Line
  held : Line
  number : Nat
  name : Bytes
  hasReplaced : Bool
  last? : Option Program
  ranges : Array Progress
  queue : List Appendix
  files : List Bytes
  current? : Option (Bytes × Nat)
  ahead? : Option (Bytes × Bool)
  /-- Where the last line that was put out has not been ended. -/
  unended : List Sink
  sinks : List (Bytes × Sink)
  sources : List (Bytes × Nat)
  /-- What has been put out for the file that is edited in place, the last first. -/
  collected : List Bytes

/-- A step of the editor. -/
abbrev Edit (α : Type) := StateT Desk Tool α

namespace Edit

/-- Where the lines go. -/
def mainSink (manner : Manner) : Sink :=
  if manner.inPlace?.isSome then .collection else .output

/-- Puts bytes out. -/
def send (sink : Sink) (bytes : Bytes) : Edit Unit := do
  match sink with
  | .output | .alias => Tool.put bytes
  | .descriptor number =>
    let _ ← Tool.perform (Activity.write number bytes)
  | .collection => modify fun desk => { desk with collected := bytes :: desk.collected }

/-- Ends the last line that was put out, unless it has been. -/
def endLine (manner : Manner) (sink : Sink) : Edit Unit := do
  if (← get).unended.contains sink then
    send sink [manner.ending]
    modify fun desk => { desk with unended := desk.unended.filter (· ≠ sink) }

/-- Puts out a text of its own. -/
def putText (manner : Manner) (sink : Sink) (text : Bytes) : Edit Unit := do
  endLine manner sink
  send sink text

/-- Puts out a line. -/
def putLine (manner : Manner) (sink : Sink) (line : Line) : Edit Unit := do
  endLine manner sink
  if line.hasEnd then send sink (line.text ++ [manner.ending])
  else
    send sink line.text
    modify fun desk => { desk with unended := sink :: desk.unended }

/-- The ranges before the first line. -/
def startRanges (manner : Manner) : Array Progress :=
  manner.script.instructions.map fun instruction =>
    match instruction.selector.first? with
    | some (.line 0) => .running none
    | _ => .idle

/-- Ends the editor at once. -/
def abandon {α : Type} (code : UInt8) (complaint : Bytes) : Edit α :=
  Tool.failWith code complaint

/-- The next record of the file that is open. -/
def record? (manner : Manner) : Edit (Option (Bytes × Bool)) := do
  match (← get).current? with
  | none => return none
  | some (name, descriptor) =>
    match ← Tool.recordWithin descriptor manner.ending Tool.lineLimit [] with
    | .ok record? => return record?
    | .error fault =>
      abandon 4 (Bytes.ofString "read error on " ++ name ++ Bytes.ofString (": " ++ fault.reason))

/-- The next line of the file that is open, which stays unread. -/
def peekLine? (manner : Manner) : Edit (Option (Bytes × Bool)) := do
  match (← get).ahead? with
  | some line => return some line
  | none =>
    let line? ← record? manner
    modify ({ · with ahead? := line? })
    return line?

/-- The name for what a file was before it was edited. -/
def backupName (path suffix : Bytes) : Bytes :=
  let base := (path.reverse.takeWhile (· ≠ separator)).reverse
  let directory := path.take (path.length - base.length)
  let name :=
    if suffix.contains (ascii '*') then
      suffix.flatMap fun b => if b = ascii '*' then base else [b]
    else base ++ suffix
  if name.contains separator then name else directory ++ name

/-- The disk after a file got a new content; what it was is kept under another name where there is
one. -/
def replaceFile (path : Bytes) (backup? : Option Bytes) (content : Bytes) (view : View) :
    Except Fault Disk := do
  let mode := ((view.facts true ⟨path⟩).toOption.map Facts.mode).getD plainMode
  let disk ←
    match backup? with
    | some backup => view.rename ⟨path⟩ ⟨backup⟩
    | none => .ok view.disk
  let place ← disk.lookup false view.cwd ⟨path⟩
  let (disk, number) := disk.addFile (.bytes content) mode
  .ok (disk.putFile place.location number)

/-- Leaves the file that is open. One that is edited gets its new content. -/
def leaveFile (manner : Manner) : Edit Unit := do
  let desk ← get
  match desk.current? with
  | none => pure ()
  | some (path, descriptor) =>
    Tool.closeInput descriptor
    match manner.inPlace? with
    | some suffix? =>
      let content := desk.collected.reverse.flatten
      let backup? := suffix?.map (backupName path)
      match ← Tool.ask (Kernel.Request.change fun view _ =>
          replaceFile path backup? content view) with
      | .ok () => pure ()
      | .error fault =>
        abandon 4 (Bytes.ofString "cannot rename " ++ path ++ Bytes.ofString (": " ++ fault.reason))
    | none => pure ()
  modify fun desk =>
    { desk with
      current? := none, collected := [], unended := desk.unended.filter (· ≠ .collection) }

/-- Opens a file. -/
def enterFile (manner : Manner) (path : Bytes) : Edit Unit := do
  let kind? := ((← Tool.view).facts true ⟨path⟩).toOption.map Facts.kind
  if manner.inPlace?.isSome && kind?.any (· ≠ .file) then
    Tool.warn (Bytes.ofString "couldn't edit " ++ path ++ Bytes.ofString ": not a regular file")
    Tool.setCode 4
  else
    match ← Tool.openInput path with
    | .ok descriptor => modify ({ · with current? := some (path, descriptor) })
    | .error fault =>
      Tool.warn (Bytes.ofString "can't read " ++ path ++ Bytes.ofString (": " ++ fault.reason))
      Tool.setCode 2

/-- Begins anew where every file is on its own. -/
def startFile (manner : Manner) : Edit Unit := do
  for (_, descriptor) in (← get).sources do
    Tool.closeInput descriptor
  modify fun desk =>
    { desk with number := 0, held := ⟨[], true⟩, ranges := startRanges manner, sources := [] }

/-- What comes before the first line. -/
def foreword (manner : Manner) : List Appendix :=
  manner.script.instructions.toList.filterMap fun instruction =>
    match instruction.selector, instruction.action with
    | ⟨some (.line 0), none, false⟩, .readFile path => some (.file path)
    | _, _ => none

/-- Goes on to the next of some files that has a line. -/
def seekLine (manner : Manner) : List Bytes → Edit (Option (Bytes × Bool))
  | [] => return none
  | path :: rest => do
    leaveFile manner
    modify ({ · with files := rest })
    enterFile manner path
    if manner.isSeparate then
      startFile manner
    match ← peekLine? manner with
    | some line => return some line
    | none => seekLine manner rest

/-- The line at hand is the last one. -/
def isLast (manner : Manner) : Edit Bool := do
  match ← peekLine? manner with
  | some _ => return false
  | none =>
    if manner.isSeparate then return true
    else return (← seekLine manner (← get).files).isNone

/-- Puts out what was to come behind the line at hand. -/
def putQueue (manner : Manner) : Edit Unit := do
  let queue := (← get).queue.reverse
  modify ({ · with queue := [] })
  let sink := mainSink manner
  for appendix in queue do
    endLine manner sink
    match appendix with
    | .text bytes => send sink bytes
    | .file path =>
      let path := if path = Bytes.ofString "/dev/stdin" then [ascii '-'] else path
      match ← Tool.openInput path with
      | .error _ => pure ()
      | .ok descriptor =>
        match ← Tool.readAll descriptor with
        | .ok bytes => send sink bytes
        | .error fault =>
          abandon 4
            (Bytes.ofString "read error on " ++ path ++ Bytes.ofString (": " ++ fault.reason))
        Tool.closeInput descriptor

/-- Reads the next line behind a text; whether there was one. -/
def readBehind (manner : Manner) (before : Bytes) : Edit Bool := do
  putQueue manner
  let line? ←
    match ← peekLine? manner with
    | some line => pure (some line)
    | none => seekLine manner (← get).files
  match line? with
  | none => return false
  | some (text, hasEnd) =>
    if (← get).number = 0 then
      modify ({ · with queue := (foreword manner).reverse })
      putQueue manner
    modify fun desk =>
      { desk with
        space := ⟨before ++ text, hasEnd⟩, ahead? := none, number := desk.number + 1
        hasReplaced := false, name := (desk.current?.map Prod.fst).getD [] }
    return true

/-- The program of a pattern. -/
def programOf (pattern : Pattern) : Edit Program := do
  match pattern, (← get).last? with
  | some program, _ | none, some program =>
    modify ({ · with last? := some program })
    return program
  | none, none =>
    abandon 1 (Bytes.ofString "-e expression #1, char 0: no previous regular expression")

/-- The line at hand is meant by an address. -/
def isAt (manner : Manner) (address : Address) : Edit Bool := do
  let desk ← get
  match address with
  | .line number => return desk.number = number
  | .step first step => return first ≤ desk.number && (desk.number - first) % step = 0
  | .last => isLast manner
  | .holding pattern => return (← programOf pattern).occursIn desk.space.text

def setRange (place : Nat) (progress : Progress) : Edit Unit :=
  modify fun desk => { desk with ranges := desk.ranges.setIfInBounds place progress }

/-- A range begins at the line at hand. -/
def begins (manner : Manner) (progress : Progress) (address : Address) : Edit Bool := do
  match address with
  | .line first =>
    match progress with
    | .closed => return false
    | _ => return first ≤ (← get).number
  | _ => isAt manner address

/-- The line at hand is in a range. -/
def isWithin (manner : Manner) (place : Nat) (first : Address) (limit : Limit) : Edit Bool := do
  let desk ← get
  let number := desk.number
  match desk.ranges[place]?.getD .idle, limit with
  | .running _, .address (.line last) =>
    if last ≤ number then setRange place .closed
    if number ≤ last then return true else isAt manner first
  | .running _, .address address =>
    if ← isAt manner address then setRange place .closed
    return true
  | .running stop?, _ =>
    if stop?.all (· ≤ number) then setRange place .closed
    return true
  | progress, limit =>
    if !(← begins manner progress first) then return false
    else
      match limit with
      | .address (.line last) =>
        if last ≤ number then
          setRange place .closed
          match first with
          | .line first => return number ≤ last || number = first
          | _ => return true
        else
          setRange place (.running none)
          return true
      | .address _ =>
        setRange place (.running none)
        return true
      | .after count =>
        setRange place (if count = 0 then .closed else .running (some (number + count)))
        return true
      | .multiple factor =>
        let stop := (number / factor + 1) * factor
        setRange place (if factor = 0 then .closed else .running (some stop))
        return true

/-- The line at hand is meant by a selector. -/
def isMeant (manner : Manner) (place : Nat) (selector : Selector) : Edit Bool := do
  let isThere ←
    match selector.first?, selector.limit? with
    | none, _ => pure true
    | some first, none => isAt manner first
    | some first, some limit => isWithin manner place first limit
  return isThere != selector.isNegated

/-- How a script is gone on with. -/
inductive Flow where
  | goesOn (place : Nat)
  /-- The script ends; the line is shown or not. -/
  | ends (isShown : Bool)
  /-- The script begins again with what is left of the line. -/
  | restarts
  | quits (code : UInt8)

/-- Where lines go that are written to a file. -/
def sinkOf (path : Bytes) : Edit Sink := do
  return ((← get).sinks.lookup path).getD .output

/-- Shows the line at hand, unless it is shown only on demand. -/
def showLine (manner : Manner) : Edit Unit := do
  unless manner.isQuiet do
    putLine manner (mainSink manner) (← get).space

def setText (text : Bytes) : Edit Unit :=
  modify fun desk => { desk with space := { desk.space with text } }

/-- Replaces what a pattern matches in the line at hand. -/
def substitute (manner : Manner) (substitution : Substitution) : Edit Unit := do
  let program ← programOf substitution.pattern
  match replaced? program substitution (← get).space.text with
  | none => pure ()
  | some text =>
    setText text
    modify ({ · with hasReplaced := true })
    if substitution.prints then
      putLine manner (mainSink manner) (← get).space
    match substitution.file? with
    | some path => putLine manner (← sinkOf path) (← get).space
    | none => pure ()

/-- The next line of a file that is read on the side. -/
def sideLine? (manner : Manner) (path : Bytes) : Edit (Option (Bytes × Bool)) := do
  let descriptor? : Option Nat ←
    match (← get).sources.lookup path with
    | some descriptor => pure (some descriptor)
    | none =>
      let name := if path = Bytes.ofString "/dev/stdin" then [ascii '-'] else path
      match ← Tool.openInput name with
      | .ok descriptor =>
        modify fun desk => { desk with sources := (path, descriptor) :: desk.sources }
        pure (some descriptor)
      | .error _ => pure none
  match descriptor? with
  | none => return none
  | some descriptor =>
    match ← Tool.recordWithin descriptor manner.ending Tool.lineLimit [] with
    | .ok record? => return record?
    | .error _ => return none

/-- Lets something come behind the line at hand. -/
def enqueue (appendix : Appendix) : Edit Unit :=
  modify fun desk => { desk with queue := appendix :: desk.queue }

/-- Does what a command says; what comes after it stands at `next`. -/
def perform (manner : Manner) (place : Nat) (action : Action) : Edit Flow := do
  let desk ← get
  let ending := manner.ending
  let sink := mainSink manner
  let text := desk.space.text
  let firstPart := text.takeWhile (· ≠ ending)
  let firstLine : Line := ⟨firstPart, firstPart.length < text.length || desk.space.hasEnd⟩
  let next : Flow := .goesOn (place + 1)
  match action with
  | .block _ | .nothing => return next
  | .append text =>
    enqueue (.text text)
    return next
  | .insert text =>
    if text ≠ [] then
      putLine manner sink ⟨text.dropLast, true⟩
    return next
  | .change text =>
    match desk.ranges[place]? with
    | some (.running _) => pure ()
    | _ => if text ≠ [] then putLine manner sink ⟨text.dropLast, true⟩
    return .ends false
  | .jump condition label =>
    let isMade :=
      match condition with
      | .always => true
      | .substituted => desk.hasReplaced
      | .unsubstituted => !desk.hasReplaced
    unless condition = .always do
      modify ({ · with hasReplaced := false })
    Tool.pause
    if !isMade then return next
    else if label = [] then return .ends true
    else return .goesOn ((manner.script.labels.lookup label).getD 0)
  | .delete => return .ends false
  | .deleteFirst =>
    if firstPart.length = text.length then return .ends false
    else
      setText (text.drop (firstPart.length + 1))
      return .restarts
  | .print =>
    putLine manner sink desk.space
    return next
  | .printFirst =>
    putLine manner sink firstLine
    return next
  | .next =>
    let isOver ← isLast manner
    showLine manner
    if isOver then return .ends false
    else if ← readBehind manner [] then return next
    else return .ends false
  | .appendNext =>
    if ← isLast manner then return .ends true
    else if ← readBehind manner (text ++ [ending]) then return next
    else return .ends false
  | .get =>
    modify ({ · with space := desk.held })
    return next
  | .getMore =>
    modify ({ · with space := ⟨text ++ ending :: desk.held.text, desk.held.hasEnd⟩ })
    return next
  | .hold =>
    modify ({ · with held := desk.space })
    return next
  | .holdMore =>
    modify ({ · with held := ⟨desk.held.text ++ ending :: text, desk.space.hasEnd⟩ })
    return next
  | .exchange =>
    modify ({ · with space := desk.held, held := desk.space })
    return next
  | .clear =>
    setText []
    return next
  | .tellNumber =>
    putText manner sink (Text.Ascii.ofNat desk.number ++ [ending])
    return next
  | .tellName =>
    putText manner sink (desk.name ++ [ending])
    return next
  | .spellOut width? =>
    putText manner sink (spelledOut ending (width?.getD manner.width) text)
    return next
  | .quit isShown code =>
    if isShown then
      showLine manner
      endLine manner sink
      putQueue manner
    return .quits code
  | .readFile path =>
    enqueue (.file path)
    return next
  | .readLine path =>
    match ← sideLine? manner path with
    | some (text, hasEnd) => enqueue (.text (if hasEnd then text ++ [ending] else text))
    | none => pure ()
    return next
  | .writeFile path =>
    putLine manner (← sinkOf path) desk.space
    return next
  | .writeFirst path =>
    putLine manner (← sinkOf path) firstLine
    return next
  | .substitute substitution =>
    substitute manner substitution
    return next
  | .transliterate pairs =>
    setText (text.map fun b => (pairs.lookup b).getD b)
    return next

/-- How many commands are done at most. -/
def patience : Nat := 100000000

/-- Goes through the script from a place on. -/
def goThrough (manner : Manner) : Nat → Nat → Edit Flow
  | 0, _ => return .quits 4
  | fuel + 1, place => do
    match manner.script.instructions[place]? with
    | none => return .ends true
    | some instruction =>
      let isMeant ← isMeant manner place instruction.selector
      match instruction.action, isMeant with
      | .block stop, false => goThrough manner fuel stop
      | _, false => goThrough manner fuel (place + 1)
      | action, true =>
        match ← perform manner place action with
        | .goesOn place => goThrough manner fuel place
        | flow => return flow

/-- Goes through the script for one line after the other. -/
def edit (manner : Manner) : Nat → Bool → Edit Unit
  | 0, _ => return ()
  | fuel + 1, reads => do
    let hasLine ← if reads then readBehind manner [] else pure true
    if hasLine then
      match ← goThrough manner patience 0 with
      | .ends isShown =>
        if isShown then showLine manner
        edit manner fuel true
      | .restarts => edit manner fuel false
      | .quits code =>
        Tool.setCode code
        Tool.giveBack 0
      | .goesOn _ => edit manner fuel true

/-- Opens the files that the script writes to. -/
def openSinks (manner : Manner) : Edit Unit := do
  for instruction in manner.script.instructions do
    let path? : Option Bytes :=
      match instruction.action with
      | .writeFile path | .writeFirst path => some path
      | .substitute substitution => substitution.file?
      | _ => none
    match path? with
    | none => pure ()
    | some path =>
      if ((← get).sinks.lookup path).isNone then
        let sink : Sink ←
          if path = Bytes.ofString "/dev/stdout" then pure .alias
          else if path = Bytes.ofString "/dev/stderr" then pure (.descriptor 2)
          else
            match ← Tool.ask (Kernel.Request.openPath ⟨path⟩ Purpose.writing 0o666) with
            | .ok descriptor => pure (.descriptor descriptor)
            | .error fault =>
              abandon 4
                (Bytes.ofString "couldn't open file " ++ path
                  ++ Bytes.ofString (": " ++ fault.reason))
        modify fun desk => { desk with sinks := (path, sink) :: desk.sinks }

/-- All the work. -/
def whole (manner : Manner) : Edit Unit := do
  openSinks manner
  edit manner patience true
  leaveFile manner

end Edit

/-- The parts of the script that options give. -/
def partsOf (given : Given) : List (String × Option Bytes) → Nat → Tool (List (Origin × Bytes))
  | [], _ => return []
  | ("e", some text) :: rest, count => do
    return (.argument (count + 1), text) :: (← partsOf given rest (count + 1))
  | ("f", some path) :: rest, count => do
    match ← openInput path with
    | .error fault =>
      failWith 1
        (Bytes.ofString "couldn't open file " ++ path ++ Bytes.ofString (": " ++ fault.reason))
    | .ok descriptor =>
      let bytes := (← readAll descriptor).toOption.getD []
      closeInput descriptor
      return (.file path, bytes) :: (← partsOf given rest count)
  | _ :: rest, count => partsOf given rest count

/-- Tells how the editor is to be called, and ends it. -/
def usage {α : Type} (complaint : Bytes) : Tool α := do
  if complaint ≠ [] then
    warn complaint
  emit (Bytes.ofString
    "Usage: sed [OPTION]... \x7bscript-only-if-no-other-script\x7d [input-file]...\n")
  setCode 1
  stop

/-- The forms of the options. -/
def forms : List Form :=
  [toggle "n" ["quiet", "silent"], setting "e" ["expression"], setting "f" ["file"],
    ⟨"i", ["in-place"], .perhaps⟩, setting "l" ["line-length"], toggle "E" ["regexp-extended"],
    toggle "r", toggle "s" ["separate"], toggle "u" ["unbuffered"], toggle "z" ["null-data"],
    toggle "b" ["binary"], toggle "posix" ["posix"], toggle "debug" ["debug"],
    toggle "sandbox" ["sandbox"], toggle "follow" ["follow-symlinks"]]

/-- Edits lines. -/
def stream (arguments : List Bytes) : Tool Unit := do
  whenUnheard fun reason =>
    let verb := if reason = Fault.badDescriptor.reason then "close" else "flush"
    (4, [s!"couldn't {verb} stdout: {reason}"])
  let given ←
    match Options.ofArguments forms true arguments with
    | .ok given => pure given
    | .error refusal => usage refusal
  let isGiven := given.has "e" || given.has "f"
  let (parts, files) ←
    if isGiven then (do pure (← partsOf given given.options 0, given.operands))
    else
      match given.operands with
      | [] => usage []
      | script :: files => pure ([(Origin.argument 1, script)], files)
  match Script.ofParts (given.has "E" || given.has "r") (!given.has "z") parts with
  | .error refusal => failWith refusal.code refusal.complaint
  | .ok script =>
    let inPlace? := if given.has "i" then some (given.value? "i") else none
    if inPlace?.isSome && files.isEmpty then
      failWith 1 (Bytes.ofString "no input files")
    let width :=
      match given.value? "l" with
      | some text => (Text.Ascii.decimal? text).getD 70
      | none => 70
    let manner : Manner :=
      ⟨script, given.has "n" || script.isQuiet, given.has "s" || inPlace?.isSome, inPlace?,
        if given.has "z" then 0 else 0x0A, width⟩
    let desk : Desk :=
      { space := ⟨[], true⟩, held := ⟨[], true⟩, number := 0, name := [ascii '-']
        hasReplaced := false, last? := none, ranges := Edit.startRanges manner, queue := []
        files := if files.isEmpty then [[ascii '-']] else files, current? := none, ahead? := none
        unended := [], sinks := [], sources := [], collected := [] }
    let _ ← (Edit.whole manner).run desk

end ChangelogSql.Utility.Editing
