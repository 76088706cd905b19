import ChangelogSql.Conversion.JarStore
import ChangelogSql.Proofs.MirroredRun

/-! What making sure of a jar comes to. It is either there, and that is said, or a
download is asked for; then the answer decides what the store is afterwards and
what else is among the events. -/
namespace ChangelogSql.StoreEvents
open Files Conversion MirroredRun

variable {σ : Type}

/-- The reply to a download of the jar that is asked for in a world. -/
def replyIn (tools : Toolchain σ) (jar : Jar) (world : World σ) : Reply σ Download :=
  tools.download jar.url jar.path world.view world.memory

/-- The events of asking for a jar, whatever the answer is. -/
def asking (jar : Jar) (asides : List Aside) : List Event :=
  .said (.downloadingJar jar.path) :: .asked (.download jar.url jar.path) :: asides.map .aside

/-- The world in which the jar has been asked for. -/
def askedIn (tools : Toolchain σ) (jar : Jar) (world : World σ) : World σ :=
  let reply := replyIn tools jar world
  ⟨reply.disk, world.cwd, reply.memory, world.events ++ asking jar reply.asides⟩

/-- The ways in which a store makes sure of a jar. -/
inductive Ensured (tools : Toolchain σ) (store : JarStore) (jar : Jar) (world : World σ) :
    Except Failure (Jar × JarStore) → World σ → Prop
  | present (there : world.view.isFile jar.path = true) :
      Ensured tools store jar world (.ok (jar, store)) (world.add [.said (.cachedJar jar.path)])
  | fetched (missing : world.view.isFile jar.path = false)
      (answer : (replyIn tools jar world).answer = .ok .fetched) :
      Ensured tools store jar world (.ok (jar, { store with downloads := store.downloads + 1 }))
        ((askedIn tools jar world).add [.aside (.record
          (.debug .jars ("Fetched " ++ jar.url ++ " into " ++ jar.path.shown)))])
  | unfetched (missing : world.view.isFile jar.path = false)
      (answer : (replyIn tools jar world).answer = .ok (.failed output)) :
      Ensured tools store jar world (.error (.download jar.url))
        ((askedIn tools jar world).add [.said (.downloadOutput output)])
  | refused {failure : Failure} (missing : world.view.isFile jar.path = false)
      (answer : (replyIn tools jar world).answer = .error failure) :
      Ensured tools store jar world (.error failure) (askedIn tools jar world)

/-- A store makes sure of its jar in one of these ways. -/
theorem ensure_ensured (tools : Toolchain σ) (store : JarStore) (version : String) (world : World σ) :
    Ensured tools store (store.jar version) world ((store.ensure tools version).perform world).1
      ((store.ensure tools version).perform world).2 := by
  generalize named : store.jar version = jar
  have looking : (Action.view : Action σ View).perform world = (.ok world.view, world) := rfl
  have saying : (Action.say (.downloadingJar jar.path)).perform world =
      (.ok (), world.add [.said (.downloadingJar jar.path)]) := rfl
  have asked : (tools.askDownload jar.url jar.path).perform
      (world.add [.said (.downloadingJar jar.path)]) =
        ((replyIn tools jar world).answer, askedIn tools jar world) := by
    refine Prod.ext rfl ?_
    simp [Toolchain.askDownload, Action.ask, Action.perform, World.add, askedIn, asking, replyIn, World.view]
  rw [JarStore.ensure, perform_bind, looking, named]
  dsimp only
  cases there : world.view.isFile jar.path with
  | true => exact .present there
  | false =>
    simp only [Bool.false_eq_true, ↓reduceIte]
    rw [perform_bind, saying]
    dsimp only
    rw [perform_bind, asked]
    cases answer : (replyIn tools jar world).answer with
    | error failure => exact .refused there answer
    | ok ended =>
      cases ended with
      | fetched => exact .fetched there answer
      | failed output => exact .unfetched there answer

end ChangelogSql.StoreEvents
