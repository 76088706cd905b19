import ChangelogSql.Conversion.JarStore
import ChangelogSql.Conversion.Resolution
import ChangelogSql.Discovery.Scan
import ChangelogSql.Output
import ChangelogSql.Settings

/-!
One run: the tree is checked, its changelogs are collected once, and each is
converted in turn with the jar for its project's version. The first failure ends
the run; what was converted before it stays. A run changes files, so it refuses
to begin outside a working tree under version control.
-/

namespace ChangelogSql.Conversion

variable {σ : Type}

/-- Fails unless `root` is inside a working tree. -/
def guard (tools : Toolchain σ) (root : Path) : Action σ Unit := do
  if ← tools.askWorkingTree root then
    Action.note [.debug .guard (root.shown ++ " is inside a git working tree")]
  else
    throw (.notARepository root)

/-- What a run has done so far. -/
structure Progress where
  memo : Memo
  store : JarStore
  converted : List Path

/-- What a finished run reports. -/
structure Summary where
  converted : List Path
  manifests : Nat
  downloads : Nat
  deriving DecidableEq

/-- Converts one changelog. -/
def convertOne (tools : Toolchain σ) (root : Path) (progress : Progress) (changelog : Path) :
    Action σ Progress := do
  Action.say (.found changelog)
  let (resolution, memo) ← resolve tools root changelog progress.memo
  if resolution.cached then
    Action.note [.debug .run ("Reusing version of " ++ resolution.manifest.shown)]
  Action.say (.usingManifest resolution.manifest)
  Action.say (.version resolution.version)
  let (jar, store) ← progress.store.ensure tools resolution.version
  if ← tools.askConvert jar.path changelog then
    Action.say (.converted changelog (Output.pathFor changelog))
    return { memo, store, converted := progress.converted ++ [changelog] }
  else
    throw (.conversion changelog)

/-- The changelogs below `root`, with the records the search leaves. -/
def discover (root : Path) : Action σ (List Path) := do
  let (outcome, records) := Discovery.changelogs (← Action.view) root
  Action.note records
  match outcome with
  | .error failure => throw failure
  | .ok changelogs => return changelogs

/-- The state in which the first changelog is met. -/
def Progress.start (settings : Settings) : Progress where
  memo := Memo.empty
  store := ⟨settings.artifactDirectory, settings.baseUrl, 0⟩
  converted := []

/-- What a run that went through reports. -/
def Progress.summary (progress : Progress) : Summary where
  converted := progress.converted
  manifests := progress.memo.size
  downloads := progress.store.downloads

/-- One run over the tree of the settings. -/
def run (tools : Toolchain σ) (settings : Settings) : Action σ Summary := do
  guard tools settings.root
  let changelogs ← discover settings.root
  Action.note [.debug .run ("Found " ++ toString changelogs.length ++ " migration(s) under "
    ++ settings.root.shown)]
  if changelogs.isEmpty then
    Action.say (.noChangelogs settings.root)
  let progress ← changelogs.foldlM (convertOne tools settings.root) (Progress.start settings)
  return progress.summary

end ChangelogSql.Conversion
