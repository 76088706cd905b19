import ChangelogSql.Files.Facts
import ChangelogSql.Utility.Basic
import ChangelogSql.Utility.Quotation

/-!
What programs read: files one after the other, all at once or line by line.
-/

namespace ChangelogSql.Utility.Tool

open Text (ascii)
open Files Kernel

/-- A descriptor stands for something. -/
def isOpen (descriptor : Nat) : Tool Bool :=
  ask (Kernel.Request.look fun process system => (system.opening? process descriptor).isSome)

/-- Opens a file under a number that is none of those that a program has from the beginning. -/
def openApart (path : Bytes) (purpose : Purpose) : Tool (Except Fault Nat) := do
  match ← ask (Kernel.Request.openPath ⟨path⟩ purpose 0o666) with
  | .error fault => return .error fault
  | .ok descriptor =>
    if 2 < descriptor then return .ok descriptor
    else
      let apart ← ask (Kernel.Request.duplicateFree descriptor 3 false)
      let _ ← ask (Kernel.Request.close descriptor)
      return apart

/-- Opens a file to be read; a dash stands for the input of the program. -/
def openInput (path : Bytes) : Tool (Except Fault Nat) := do
  if path = [ascii '-'] then return .ok 0
  else openApart path Purpose.reading

/-- Closes a file, unless it is the input of the program. -/
def closeInput (descriptor : Nat) : Tool Unit := do
  if descriptor ≠ 0 then
    modify fun desk =>
      { desk with unread := desk.unread.filter fun entry => entry.1 ≠ descriptor }
    let _ ← ask (Kernel.Request.close descriptor)

/-- The next portion of a file; nothing at its end. -/
def portion (descriptor : Nat) : Tool (Except Fault Bytes) :=
  ask (Kernel.Request.read descriptor Activity.portion)

/-- Everything that is left of a file. -/
def readAll (descriptor : Nat) : Tool (Except Fault Bytes) :=
  perform (Activity.readAll descriptor)

/-- What has been read from a descriptor and not yet used. -/
def unread (descriptor : Nat) : Tool Bytes := do
  let desk ← get
  return (desk.unread.lookup descriptor).getD []

def setUnread (descriptor : Nat) (bytes : Bytes) : Tool Unit :=
  modify fun desk =>
    { desk with
      unread := (descriptor, bytes) :: desk.unread.filter fun entry => entry.1 ≠ descriptor }

/-- How many portions a line consists of at most. -/
def lineLimit : Nat := 1000000

/-- The next record of a file, which a byte ends, and whether it was ended; nothing at the end of the
file. `before` belongs to it already, the last portion first. -/
def recordWithin (descriptor : Nat) (ending : UInt8) :
    Nat → List Bytes → Tool (Except Fault (Option (Bytes × Bool)))
  | 0, _ => return .ok none
  | fuel + 1, before => do
    let held ← unread descriptor
    let here := held.takeWhile (· ≠ ending)
    match held.drop here.length with
    | _ :: rest =>
      setUnread descriptor rest
      return .ok (some ((here :: before).reverse.flatten, true))
    | [] =>
      match ← portion descriptor with
      | .error fault => return .error fault
      | .ok [] =>
        setUnread descriptor []
        let record := (here :: before).reverse.flatten
        return .ok (if record = [] then none else some (record, false))
      | .ok bytes =>
        setUnread descriptor bytes
        recordWithin descriptor ending fuel (here :: before)

/-- The next line of a file, and whether it was ended. -/
def line (descriptor : Nat) : Tool (Except Fault (Option (Bytes × Bool))) :=
  recordWithin descriptor 0x0A lineLimit []

/-- Gives back what has been read and not used, where others can read it then. -/
def giveBack (descriptor : Nat) : Tool Unit := do
  let rest ← unread descriptor
  setUnread descriptor []
  let offset? ← ask (Kernel.Request.look fun process system =>
    (system.opening? process descriptor).map (·.offset))
  match offset? with
  | some offset =>
    let _ ← ask (Kernel.Request.seek descriptor (offset - rest.length))
  | none => pure ()

/-- The number of bytes in the file that a descriptor leads to, and whether it is a file. -/
def sizeOf? (descriptor : Nat) : Tool (Option Nat) :=
  ask (Kernel.Request.look fun process system => do
    let opening ← system.opening? process descriptor
    match opening.target with
    | .file number => some (system.disk.sizeOf number)
    | _ => none)

/-- Two descriptors lead to the same file. -/
def isSameFile (descriptor other : Nat) : Tool Bool :=
  ask (Kernel.Request.look fun process system =>
    match system.opening? process descriptor, system.opening? process other with
    | some opening, some others =>
      match opening.target, others.target with
      | .file number, .file number' => number = number'
      | _, _ => false
    | _, _ => false)

/-- Complains about a file. -/
def complainOf (path : Bytes) (fault : Fault) : Tool Unit :=
  complain (Quotation.shown path ++ Bytes.ofString (": " ++ fault.reason))

/-- Does something with each of some files, or with the input where there are none. Files that
cannot be opened are complained of. -/
def forInputs (paths : List Bytes) (work : Bytes → Nat → Tool Unit) : Tool Unit := do
  for path in if paths.isEmpty then [[ascii '-']] else paths do
    match ← openInput path with
    | .error fault => complainOf path fault
    | .ok descriptor =>
      work path descriptor
      closeInput descriptor

/-- Everything in some files, one behind the other; nothing where none of them can be opened. -/
def contents? (paths : List Bytes) : Tool (Option Bytes) := do
  let mut parts : List Bytes := []
  let mut isOpened := false
  for path in if paths.isEmpty then [[ascii '-']] else paths do
    match ← openInput path with
    | .error fault => complainOf path fault
    | .ok descriptor =>
      isOpened := true
      match ← readAll descriptor with
      | .error fault => complainOf path fault
      | .ok bytes => parts := bytes :: parts
      closeInput descriptor
  return if isOpened then some parts.reverse.flatten else none

/-- Everything in those files that can be read, one behind the other. -/
def contents (paths : List Bytes) : Tool Bytes := do
  return (← contents? paths).getD []

end ChangelogSql.Utility.Tool
