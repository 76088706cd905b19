import ChangelogSql.Jar
import ChangelogSql.Toolchain

/-!
The directory in which jars are kept. A jar is fetched when its file is not
there; the presence of the file is the only thing that is asked.
-/

namespace ChangelogSql.Conversion

variable {σ : Type}

/-- Where jars are kept, where they come from, and how many have been fetched. -/
structure JarStore where
  directory : Path
  base : String
  downloads : Nat
  deriving DecidableEq

namespace JarStore

/-- The jar a store has for a version. -/
def jar (store : JarStore) (version : String) : Jar :=
  Jar.forVersion version store.directory store.base

/-- Makes sure that the jar for a version is there. -/
def ensure (store : JarStore) (tools : Toolchain σ) (version : String) :
    Action σ (Jar × JarStore) := do
  let jar := store.jar version
  if (← Action.view).isFile jar.path then
    Action.say (.cachedJar jar.path)
    return (jar, store)
  else
    Action.say (.downloadingJar jar.path)
    match ← tools.askDownload jar.url jar.path with
    | .fetched =>
      Action.note [.debug .jars ("Fetched " ++ jar.url ++ " into " ++ jar.path.shown)]
      return (jar, { store with downloads := store.downloads + 1 })
    | .failed output =>
      Action.say (.downloadOutput output)
      throw (.download jar.url)

end JarStore

end ChangelogSql.Conversion
