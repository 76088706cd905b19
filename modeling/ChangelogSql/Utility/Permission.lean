import ChangelogSql.Numeral.Directive
import ChangelogSql.Utility.Entry

/-!
The program that changes what may be done with files.
-/

namespace ChangelogSql.Utility.Permission

open Text (ascii)
open Files Kernel
open Tool

/-- Permission bits in letters, for those who have a file, their group and others. -/
def letters (mode : Nat) : Bytes :=
  let letter (bit : Nat) (letter : Char) : UInt8 :=
    if mode &&& bit ≠ 0 then ascii letter else ascii '-'
  let last (execute special : Nat) (both alone : Char) : UInt8 :=
    if mode &&& special ≠ 0 then ascii (if mode &&& execute ≠ 0 then both else alone)
    else letter execute 'x'
  [letter 0o400 'r', letter 0o200 'w', last 0o100 0o4000 's' 'S',
    letter 0o040 'r', letter 0o020 'w', last 0o010 0o2000 's' 'S',
    letter 0o004 'r', letter 0o002 'w', last 0o001 0o1000 't' 'T']

/-- Permission bits as four octal digits and letters. -/
def described (mode : Nat) : Bytes :=
  Numeral.Directive.padded { Numeral.Directive.plain with precision? := some 4 }
    (Numeral.Directive.digitsOf 8 mode) ++ Bytes.ofString " (" ++ letters mode ++ [ascii ')']

/-- How permissions are changed and what is told of that. -/
structure Revision where
  change : Bytes
  /-- The bits of another file, where they are taken. -/
  bits? : Option Nat
  isDeep : Bool
  isVerbose : Bool
  /-- Only changes are told of. -/
  onlyChanges : Bool
  isQuiet : Bool

/-- Changes the permissions of what stands at a path. -/
def revise (revision : Revision) : Nat → Bool → Bytes → Tool Unit
  | 0, _, _ => return ()
  | depth + 1, isFirst, path => do
    let seen ← view
    let isLink := (seen.facts false ⟨path⟩).toOption.any (·.kind = .link)
    match seen.facts true ⟨path⟩ with
    | .error fault =>
      if isLink && !isFirst then return ()
      else if isLink then
        unless revision.isQuiet do
          complain (Bytes.ofString "cannot operate on dangling symlink " ++ Quotation.quoted path)
        setCode 1
      else
        unless revision.isQuiet do
          Entry.failure "cannot access" path fault.reason
        setCode 1
    | .ok facts =>
      if isLink && !isFirst then return ()
      let umask ← ask (Kernel.Request.look fun process _ => process.umask)
      let isDirectory := facts.kind = .directory
      let mode := revision.bits?.getD
        ((Mode.changed? revision.change umask isDirectory facts.mode).getD facts.mode)
      let _ ← Entry.change fun view _ => view.setMode ⟨path⟩ fun _ _ => mode
      if revision.isVerbose || (revision.onlyChanges && mode ≠ facts.mode) then
        if mode = facts.mode then
          putLine (Bytes.ofString "mode of " ++ Quotation.quoted path
            ++ Bytes.ofString " retained as " ++ described mode)
        else
          putLine (Bytes.ofString "mode of " ++ Quotation.quoted path
            ++ Bytes.ofString " changed from " ++ described facts.mode ++ Bytes.ofString " to "
            ++ described mode)
      if revision.isDeep && isDirectory then
        match seen.stat ⟨path⟩ with
        | .ok (.directory _ entries) =>
          for (name, _) in entries.toList do
            revise revision depth false (Entry.within path name.bytes)
        | _ => return ()

/-- A word that begins with a dash and takes permissions away. -/
def takesAway (word : Bytes) : Bool :=
  match word with
  | 0x2D :: letter :: _ => (Bytes.ofString "rwxXstugoa,+=0123456789").contains letter
  | _ => false

/-- Changes permissions. -/
def change (arguments : List Bytes) : Tool Unit := do
  let (options', rest) := (arguments.filter fun word => !takesAway word,
    arguments.filter takesAway)
  let given ← options [toggle "c" ["changes"], toggle "f" ["silent", "quiet"],
    toggle "R" ["recursive"], setting "reference" ["reference"], toggle "v" ["verbose"],
    toggle "root" ["preserve-root"], toggle "noroot" ["no-preserve-root"]] options' 1
  let bits? ←
    match given.value? "reference" with
    | none => pure none
    | some path =>
      match (← view).facts true ⟨path⟩ with
      | .ok facts => pure (some facts.mode)
      | .error fault =>
        failWith 1 (Bytes.ofString "failed to get attributes of " ++ Quotation.quoted path
          ++ Bytes.ofString (": " ++ fault.reason))
  let hasMode := bits?.isSome || !rest.isEmpty
  let text := if rest.isEmpty then given.operands.headD [] else Text.joinWith (ascii ',') rest
  let paths := if hasMode then given.operands else given.operands.drop 1
  if paths.isEmpty then
    if hasMode then
      match rest.getLast? with
      | some word => misuse 1 (Bytes.ofString "missing operand after " ++ Quotation.cited word)
      | none => misuse 1 (Bytes.ofString "missing operand")
    match given.operands.head? with
    | some word => misuse 1 (Bytes.ofString "missing operand after " ++ Quotation.cited word)
    | none => misuse 1 (Bytes.ofString "missing operand")
  if bits?.isNone && (Mode.changed? text 0 false 0).isNone then
    misuse 1 (Bytes.ofString "invalid mode: " ++ Quotation.cited text)
  let revision : Revision := ⟨text, bits?, given.has "R", given.has "v", given.has "c",
    given.has "f"⟩
  for path in paths do
    revise revision Entry.depthLimit true path

/-- Gives files to someone; there is only one person, so nothing changes. -/
def giveAway (arguments : List Bytes) : Tool Unit := do
  let given ← options [toggle "c" ["changes"], toggle "f" ["silent", "quiet"],
    toggle "h" ["no-dereference"], toggle "R" ["recursive"], toggle "v" ["verbose"]] arguments 1
  match given.operands with
  | [] => misuse 1 (Bytes.ofString "missing operand")
  | [word] => misuse 1 (Bytes.ofString "missing operand after " ++ Quotation.cited word)
  | _ :: paths =>
    for path in paths do
      match (← view).facts (!given.has "h") ⟨path⟩ with
      | .ok _ => pure ()
      | .error fault => Entry.failure "cannot access" path fault.reason

end ChangelogSql.Utility.Permission
