import ChangelogSql.Shell.Builtin
import ChangelogSql.Shell.Expansion
import ChangelogSql.Shell.Grammar

/-!
The words of a command: the fields they stand for, and what the first of them
means. Words are expanded one after the other, and no further than is needed to
know which command it is, because the rest can depend on that.
-/

namespace ChangelogSql.Shell.Words

open Text (ascii)
open Files Kernel

/-- Runs commands and gives what they write. -/
abbrev Capture := Command → Work Bytes

/-- How deep the parts of words are nested at most, and how many there are. -/
def partLimit : Nat := 1000000

/-- The letters that a word stands for as one text. -/
def letters (capture : Capture) (manner : Expansion.Manner) (word : Word) : Work (List Letter) := do
  return lettersOf (← Expansion.fragments capture partLimit manner true word)

/-- The one text that a word stands for. -/
def text (capture : Capture) (manner : Expansion.Manner) (word : Word) : Work Bytes := do
  return bytesOf (← letters capture manner word)

/-- The fields that a word stands for. -/
def fields (capture : Capture) (word : Word) : Work (List Bytes) := do
  let fragments ← Expansion.fragments capture partLimit .fields true word
  let state ← get
  let found := fieldsOf state.separators fragments
  if state.has 'f' || !found.any Pattern.isPattern then return found.map bytesOf
  else
    let view ← Work.ask Kernel.Request.view
    return found.flatMap (pathsOf view)

/-- The fields that words stand for. -/
def allFields (capture : Capture) : List Word → Work (List Bytes)
  | [] => return []
  | word :: rest => do
    let here ← fields capture word
    return here ++ (← allFields capture rest)

/-- The field of a word that is an assignment. -/
def assigned (capture : Capture) (name : Bytes) (value : Word) : Work Bytes := do
  return name ++ ascii '=' :: (← text capture .value value)

/-- Words of which some have been expanded. -/
structure Pending where
  fields : List Bytes
  words : List Word

/-- Expands words until there are so many fields, or no words are left. -/
def fill (capture : Capture) (count : Nat) : List Word → List Bytes → Work Pending
  | [], fields => return ⟨fields, []⟩
  | word :: rest, before => do
    if count ≤ before.length then return ⟨before, word :: rest⟩
    else fill capture count rest (before ++ (← fields capture word))

/-- What is known of a command before all of its words are expanded. -/
structure Plan where
  /-- All fields, those of other commands in front too. -/
  fields : List Bytes
  /-- The name and the arguments. -/
  own : List Bytes
  /-- The command of the shell that comes before any program. -/
  entry? : Option Builtin.Entry
  /-- Assignments in front of it stay, and where it goes wrong the script ends. -/
  isSpecial : Bool
  /-- What is assigned in front of it is put back. -/
  isLocal : Bool
  /-- No function is meant. -/
  skipsFunctions : Bool
  /-- Where programs are looked for, if not where they usually are. -/
  places? : Option Bytes

/-- What the words behind `command` say: where programs are looked for, and how many words do not
belong to the command that is meant. Nothing means that no command is meant. -/
def prefixOf (capture : Capture) : Nat → Nat → Option Bytes → Pending →
    Work (Option (Option Bytes × Nat) × Pending)
  | 0, _, _, pending => return (none, pending)
  | fuel + 1, count, places?, pending => do
    let pending ← fill capture (count + 1) pending.words pending.fields
    match pending.fields[count]? with
    | none => return (none, pending)
    | some [0x2D, 0x2D] =>
      let pending ← fill capture (count + 2) pending.words pending.fields
      if pending.fields.length ≤ count + 1 then return (none, pending)
      else return (some (places?, count + 1), pending)
    | some (0x2D :: letter :: letters) =>
      if (letter :: letters).all (· = ascii 'p') then
        prefixOf capture fuel (count + 1) (some (Bytes.ofString usualPlaces)) pending
      else return (none, pending)
    | some _ => return (some (places?, count), pending)

/-- The command that words mean, as far as that can be known before the rest of them is expanded,
and the words that are left. -/
def plan (capture : Capture) : Nat → Plan → List Word → Work (Plan × List Word)
  | 0, plan, words => return (plan, words)
  | fuel + 1, before, words => do
    match before.own with
    | [] => return (before, words)
    | name :: _ =>
      let isFunction := !before.skipsFunctions && (← get).functions.any (·.1 = name)
      match if isFunction then none else (Builtin.find? name).filter Builtin.Entry.isRegular with
      | none => return ({ before with entry? := none, isLocal := true }, words)
      | some entry =>
        let isFirst := before.entry?.isNone
        let isSpecial := if isFirst then entry.isSpecial else before.isSpecial
        let isLocal := !isFirst || !entry.isSpecial
        let now : Plan := { before with entry? := some entry, isSpecial, isLocal }
        match entry.action with
        | .command => do
          let skipped := before.fields.length - before.own.length
          let (found?, pending) ←
            prefixOf capture partLimit (skipped + 1) before.places? ⟨before.fields, words⟩
          match found? with
          | none =>
            return ({ now with
              fields := pending.fields, own := pending.fields.drop skipped }, pending.words)
          | some (places?, count) =>
            plan capture fuel
              { now with
                fields := pending.fields, own := pending.fields.drop count, skipsFunctions := true
                places? }
              pending.words
        | _ => return (now, words)

/-- The fields of the words that are left. -/
def further (capture : Capture) (takesAssignments : Bool) : List Word → Work (List Bytes)
  | [] => return []
  | word :: rest => do
    let here ←
      match if takesAssignments then Grammar.assignment? word else none with
      | some (name, value) => do pure [← assigned capture name value]
      | none => fields capture word
    return here ++ (← further capture takesAssignments rest)

/-- The command that words mean, with all of them expanded; nothing is meant by no fields. -/
def planOf (capture : Capture) (words : List Word) : Work Plan := do
  let pending ← fill capture 1 words []
  let start : Plan := ⟨pending.fields, pending.fields, none, false, false, false, none⟩
  if pending.fields = [] then return start
  else
    let (plan, left) ← plan capture partLimit start pending.words
    let more ← further capture (plan.entry?.any Builtin.Entry.takesAssignments) left
    return { plan with fields := plan.fields ++ more, own := plan.own ++ more }

end ChangelogSql.Shell.Words
