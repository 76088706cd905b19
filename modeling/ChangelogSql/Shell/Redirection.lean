import ChangelogSql.Shell.Expansion

/-!
Redirections: what a descriptor stands for is changed before a command runs, and
put back when it has ended. All words are expanded before anything is opened,
but the text of a document only when it is its turn.
-/

namespace ChangelogSql.Shell

open Text (ascii)
open Files Kernel

/-- A redirection whose words have been expanded. -/
inductive Diversion where
  | file (descriptor : Nat) (mode : Mode) (path : Bytes)
  | same (descriptor : Nat) (source : Nat)
  | closed (descriptor : Nat)
  | document (descriptor : Nat) (word : Word)

namespace Diversion

def descriptor : Diversion → Nat
  | .file descriptor _ _ | .same descriptor _ | .closed descriptor | .document descriptor _ =>
    descriptor

/-- What a descriptor that is another's same leads to: a number of one digit, or nothing. -/
def ofSource? (descriptor : Nat) (source : Bytes) : Option Diversion :=
  match source with
  | [b] =>
    if Text.Ascii.isDigit b then some (.same descriptor (Text.Ascii.value 10 [b]))
    else if b = ascii '-' then some (.closed descriptor)
    else none
  | _ => none

/-- The text for a file that cannot be opened. -/
def openFailure (verb missing : String) (path : Bytes) (fault : Fault) : Bytes :=
  let reason := if fault = .notFound || fault = .notDirectory then missing else fault.reason
  Bytes.ofString (verb ++ " ") ++ path ++ Bytes.ofString (": " ++ reason)

/-- Opens a file, or gives up. -/
def openFile (path : Bytes) (purpose : Purpose) (verb missing : String) : Work Nat := do
  match ← Work.ask (Kernel.Request.openPath ⟨path⟩ purpose 0o666) with
  | .ok number => return number
  | .error fault => Work.fail (openFailure verb missing path fault)

/-- Opens a file for output where files that are there are protected. -/
def openProtected (path : Bytes) : Work Nat := do
  let view ← Work.ask Kernel.Request.view
  let refuse : Work Nat :=
    Work.fail (openFailure "cannot create" "Directory nonexistent" path .alreadyExists)
  match view.stat ⟨path⟩ with
  | .ok (.file _) => refuse
  | .ok _ =>
    openFile path { Purpose.writing with creates := false, truncates := false } "cannot create"
      "Directory nonexistent"
  | .error _ => openFile path Purpose.creating "cannot create" "Directory nonexistent"

/-- Gives a text to be read. One that is too long for a pipe is written by another process. -/
def openText (bytes : Bytes) : Work Nat := do
  let (source, target) ← Work.ask Kernel.Request.pipe
  let write : Work Unit := do
    let _ ← Work.perform (Activity.write target bytes)
  if bytes.length ≤ 4096 then write
  else
    let _ ← Work.fork do
      let _ ← Work.ask (Kernel.Request.close source)
      write
      Work.quit 0
  let _ ← Work.ask (Kernel.Request.close target)
  return source

/-- Opens what a diversion leads to, under any number; closing leads to nothing. -/
def source (expand : Word → Work Bytes) : Diversion → Work (Option Nat)
  | .file _ .input path => some <$> openFile path Purpose.reading "cannot open" "No such file"
  | .file _ .both path =>
    some <$> openFile path Purpose.both "cannot create" "Directory nonexistent"
  | .file _ .append path =>
    some <$> openFile path Purpose.appending "cannot create" "Directory nonexistent"
  | .file _ .force path =>
    some <$> openFile path Purpose.writing "cannot create" "Directory nonexistent"
  | .file _ .output path => do
    if (← get).has 'C' then some <$> openProtected path
    else some <$> openFile path Purpose.writing "cannot create" "Directory nonexistent"
  | .same _ source => return some source
  | .closed _ => return none
  | .document _ word => do
    let bytes ← expand word
    some <$> openText bytes

/-- Lets a descriptor stand for what was opened. -/
def settle (diversion : Diversion) (source? : Option Nat) : Work Unit := do
  let descriptor := diversion.descriptor
  let refuse (number : Nat) (fault : Fault) : Work Unit :=
    Work.fail (Text.Ascii.ofNat number ++ Bytes.ofString (": " ++ fault.reason))
  match source? with
  | none =>
    let _ ← Work.ask (Kernel.Request.close descriptor)
  | some source =>
    match ← Work.ask (Kernel.Request.duplicate source descriptor) with
    | .error fault => refuse source fault
    | .ok () =>
      match diversion with
      | .same .. => return ()
      | _ =>
        let _ ← Work.ask (Kernel.Request.close source)

/-- What descriptors stood for before: another number, or nothing. -/
abbrev Saved := List (Nat × Option Nat)

/-- The lowest number under which a shell keeps what descriptors stood for. -/
def firstSaved : Nat := 10

/-- Keeps what a descriptor stands for. -/
def save (descriptor : Nat) : Work (Option Nat) := do
  match ← Work.ask (Kernel.Request.duplicateFree descriptor firstSaved true) with
  | .ok number =>
    let _ ← Work.ask (Kernel.Request.close descriptor)
    return some number
  | .error _ => return none

/-- Puts descriptors back. -/
def restore (saved : Saved) : Work Unit := do
  for (descriptor, number?) in saved do
    match number? with
    | none =>
      let _ ← Work.ask (Kernel.Request.close descriptor)
    | some number =>
      let _ ← Work.ask (Kernel.Request.duplicate number descriptor)
      let _ ← Work.ask (Kernel.Request.close number)

/-- Gives up what descriptors stood for before. -/
def forget (saved : Saved) : Work Unit := do
  for (_, number?) in saved do
    match number? with
    | none => pure ()
    | some number =>
      let _ ← Work.ask (Kernel.Request.close number)

/-- Diverts descriptors for good. -/
def performAll (expand : Word → Work Bytes) : List Diversion → Work Unit
  | [] => return ()
  | diversion :: rest => do
    let source? ← diversion.source expand
    unless source? = some diversion.descriptor do
      diversion.settle source?
    performAll expand rest

/-- Diverts descriptors; tells what they stood for before and whether all went well. -/
def performSaving (expand : Word → Work Bytes) :
    List Diversion → Saved → Work (Saved × Bool)
  | [], saved => return (saved, true)
  | diversion :: rest, saved => do
    let descriptor := diversion.descriptor
    let opened? : Option (Option Nat) ←
      tryCatch (some <$> diversion.source expand) fun stop =>
        if stop = .failed then return none else throw stop
    match opened? with
    | none => return (saved, false)
    | some source? =>
      let isSame : Bool :=
        match diversion with
        | .same descriptor source => descriptor = source
        | _ => false
      if isSame then performSaving expand rest saved
      else
        let saved ←
          if saved.any (·.1 = descriptor) then pure saved
          else if source? = some descriptor then pure (saved ++ [(descriptor, none)])
          else do pure (saved ++ [(descriptor, ← save descriptor)])
        if source? = some descriptor then performSaving expand rest saved
        else
          let settled ← tryCatch
            (do
              diversion.settle source?
              return true)
            fun _ => return false
          if settled then performSaving expand rest saved else return (saved, false)

/-- Expands the words of a redirection. -/
def ofRedirection (expand : Word → Work Bytes) : Redirection → Work Diversion
  | .file descriptor mode path => do
    return .file descriptor mode (← expand path)
  | .same descriptor word => do
    let source ← expand word
    match ofSource? descriptor source with
    | some diversion => return diversion
    | none =>
      modify fun state => { state with line := state.readLine }
      Work.fail (Bytes.ofString "Syntax error: Bad fd number")
  | .document descriptor number => do
    let word := ((← get).documents.lookup number).getD []
    return .document descriptor word

end Diversion

end ChangelogSql.Shell
