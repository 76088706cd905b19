import ChangelogSql.Toolchain

/-!
Collaborators whose answers are laid down beforehand. Answers are looked up by
what is asked about, an entry for `*` stands for everything that has none, and
each collaborator has an answer of last resort.
-/

namespace ChangelogSql.Toolchain

open Files

/-- An answer laid down: a value, or that the collaborator's program could not be run. -/
inductive Planned (α : Type) where
  | answer (value : α)
  | launch (failure : LaunchFailure)

/-- Answers by what is asked about. -/
abbrev Plans (α : Type) := List (String × Planned α)

/-- What becomes of a download: the file is made or only said to be, or it fails. -/
inductive PlannedDownload where
  | written
  | unwritten
  | failed (output : String)

/-- Everything the collaborators will answer. -/
structure Script where
  workingTree : Planned Bool
  listings : Plans String
  downloads : Plans PlannedDownload
  conversions : Plans Bool

namespace Script

/-- The collaborators with their answers of last resort: a working tree, an empty listing, a
download that makes its file, a conversion that succeeds. -/
def unwritten : Script :=
  ⟨.answer true, [], [], []⟩

/-- The answer for what is asked about. -/
def lookUp {α : Type} (plans : Plans α) (asked : String) (otherwise : α) : Planned α :=
  match plans.lookup asked with
  | some planned => planned
  | none => (plans.lookup "*").getD (.answer otherwise)

/-- The script with one listing changed. -/
def setListing (script : Script) (project : String) (listing : Planned String) : Script :=
  { script with listings := (project, listing) :: script.listings }

/-- The reply a planned answer amounts to; `change` is what a value does to the disk. -/
def reply {α β : Type} (script : Script) (view : View) (planned : Planned α)
    (change : α → Disk) (answer : α → β) : Reply Script β :=
  match planned with
  | .launch failure => ⟨.error (.launch failure), view.disk, script, []⟩
  | .answer value => ⟨.ok (answer value), change value, script, []⟩

/-- What stands in a jar that is made. -/
def jarContent : Bytes :=
  Bytes.ofString "jar"

/-- The disk after a download to `destination`; a destination that cannot be written to is left
alone. -/
def downloaded (view : View) (destination : Path) : PlannedDownload → Disk
  | .written =>
    match view.write destination jarContent with
    | .ok disk => disk
    | .error _ => view.disk
  | .unwritten | .failed _ => view.disk

/-- The outcome of a planned download. -/
def outcome : PlannedDownload → Download
  | .written | .unwritten => .fetched
  | .failed output => .failed output

/-- The collaborators that follow the script they remember. -/
def toolchain : Toolchain Script where
  workingTree _ view script :=
    script.reply view script.workingTree (fun _ => view.disk) id
  dependencies project view script :=
    script.reply view (lookUp script.listings project.shown "") (fun _ => view.disk) id
  download url destination view script :=
    script.reply view (lookUp script.downloads url .written) (downloaded view destination) outcome
  convert _ changelog view script :=
    script.reply view (lookUp script.conversions changelog.shown true) (fun _ => view.disk) id

end Script

end ChangelogSql.Toolchain
