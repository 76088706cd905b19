import ChangelogSql.World

/-!
The four collaborators of a run. Each sees the disk as the run does and its own
memory, and answers as it likes; what a run does with the answers is the same
for all of them.
-/

namespace ChangelogSql

open Files

/-- How a download ended: the jar was fetched, or it was not and this is what was written about
it. -/
inductive Download where
  | fetched
  | failed (output : String)
  deriving DecidableEq

/-- The collaborators of a run. -/
structure Toolchain (σ : Type) where
  /-- Whether a directory is inside a working tree under version control. -/
  workingTree : Path → View → σ → Reply σ Bool
  /-- The text in which a project's dependencies are listed. -/
  dependencies : Path → View → σ → Reply σ String
  /-- Brings what stands under a URL to a path. -/
  download : String → Path → View → σ → Reply σ Download
  /-- Runs a jar on a changelog; whether it succeeded. -/
  convert : Path → Path → View → σ → Reply σ Bool

namespace Toolchain

variable {σ : Type}

def askWorkingTree (tools : Toolchain σ) (root : Path) : Action σ Bool :=
  Action.ask (.workingTree root) (tools.workingTree root)

def askDependencies (tools : Toolchain σ) (project : Path) : Action σ String :=
  Action.ask (.dependencies project) (tools.dependencies project)

def askDownload (tools : Toolchain σ) (url : String) (destination : Path) : Action σ Download :=
  Action.ask (.download url destination) (tools.download url destination)

def askConvert (tools : Toolchain σ) (jar changelog : Path) : Action σ Bool :=
  Action.ask (.convert jar changelog) (tools.convert jar changelog)

end Toolchain

end ChangelogSql
