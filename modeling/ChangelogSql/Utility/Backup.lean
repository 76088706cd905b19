import ChangelogSql.Utility.Entry

/-!
Backups. What stands at a place that is about to be given to something else gets
another name first, so that it is not lost.
-/

namespace ChangelogSql.Utility

open Text (ascii)
open Files Kernel
open Tool

/-- Which names things get so that they are not lost. -/
inductive Naming where
  /-- The same one each time. -/
  | plain
  /-- One with a number above all those that are there. -/
  | numbered
  /-- One with a number where there is such a one already, and else the same each time. -/
  | accustomed
  deriving DecidableEq

/-- How backups are named. -/
structure Backup where
  naming : Naming
  /-- What stands behind a name without a number. -/
  suffix : Bytes

namespace Backup

/-- The options that ask for backups. -/
def forms : List Form :=
  [toggle "b", ⟨"backup", ["backup"], .perhaps⟩, setting "S" ["suffix"]]

/-- The words for the namings; two of them say that there are no backups. -/
def words : List (String × Option Naming) :=
  [("none", none), ("off", none), ("simple", some .plain), ("never", some .plain),
    ("existing", some .accustomed), ("nil", some .accustomed), ("numbered", some .numbered),
    ("t", some .numbered)]

/-- What a word asks for; it can be shortened as long as it is clear what it means. -/
def namingOf (word : Bytes) : Except String (Option Naming) :=
  match words.find? fun entry => Bytes.ofString entry.1 = word with
  | some entry => .ok entry.2
  | none =>
    match words.filter fun entry => word.isPrefixOf (Bytes.ofString entry.1) with
    | [] => .error "invalid"
    | entry :: others =>
      if others.all fun other => other.2 = entry.2 then .ok entry.2 else .error "ambiguous"

/-- Complains about a word, and says which ones there are. -/
def refuse (kind : String) (word : Bytes) : Tool α := do
  warn (Bytes.ofString (kind ++ " argument ") ++ Quotation.cited word
    ++ Bytes.ofString " for 'backup type'")
  emit (Bytes.ofString ("Valid arguments are:\n  - 'none', 'off'\n  - 'simple', 'never'\n"
    ++ "  - 'existing', 'nil'\n  - 'numbered', 't'\n"))
  hint
  setCode 1
  stop

/-- The backups that options ask for. -/
def ofGiven? (given : Given) : Tool (Option Backup) := do
  let suffix := (given.value? "S").getD [ascii '~']
  let suffix := if suffix = [] || suffix.contains separator then [ascii '~'] else suffix
  if !(given.has "b" || given.has "backup" || given.has "S") then return none
  let chosen := given.options.filterMap fun (key, value?) => if key = "backup" then value? else none
  match chosen.getLast? with
  | none => return some ⟨.accustomed, suffix⟩
  | some word =>
    match namingOf word with
    | .ok naming? => return naming?.map fun naming => ⟨naming, suffix⟩
    | .error kind => refuse kind word

/-- The number in a name, if it is the numbered backup of another one. -/
def numberOf? (name entry : Bytes) : Option Nat :=
  let front := name ++ [ascii '.', ascii '~']
  if !front.isPrefixOf entry then none
  else
    let digits := (entry.drop front.length).takeWhile Text.Ascii.isDigit
    let isWhole := entry.drop (front.length + digits.length) = [ascii '~']
    if isWhole && digits.head?.any (· ≠ ascii '0') then some (Text.Ascii.value 10 digits) else none

/-- What is put behind a name, where a directory has some entries already. -/
def behind (backup : Backup) (name : Bytes) (entries : List Bytes) : Bytes :=
  let numbers := entries.filterMap (numberOf? name)
  let next := numbers.foldl max 0 + 1
  if backup.naming = .numbered || (backup.naming = .accustomed && numbers ≠ []) then
    Bytes.ofString ".~" ++ Text.Ascii.ofNat next ++ [ascii '~']
  else backup.suffix

/-- Gives what stands at a path the name of a backup; the new path. -/
def keep (backup : Backup) (path : Bytes) : Tool (Except Fault Bytes) := do
  let path := (path.reverse.dropWhile (· = separator)).reverse
  let above := (Entry.above? path).getD [ascii '.']
  let entries :=
    match (← view).stat ⟨above⟩ with
    | .ok (.directory _ entries) => entries.toList.map fun entry => entry.1.bytes
    | _ => []
  let kept := path ++ backup.behind (lastSegment ⟨path⟩) entries
  match ← Entry.change fun view _ => view.rename ⟨path⟩ ⟨kept⟩ with
  | .ok () => return .ok kept
  | .error fault => return .error fault

end Backup

end ChangelogSql.Utility
