import ChangelogSql.Failure
import ChangelogSql.Files.Access
import ChangelogSql.Log.Record
import ChangelogSql.Message

/-!
The world a run happens in. A run reads the disk, asks collaborators, prints and
leaves records; everything it does is added to one list of events, in order. A
collaborator may keep a memory and may change the disk in any way, but it cannot
touch the working directory of the run or the events before it.
-/

namespace ChangelogSql

open Files

/-- The two streams a process writes to. -/
inductive Stream where
  | out
  | err
  deriving DecidableEq

/-- What a run asks of its collaborators. -/
inductive Request where
  | workingTree (root : Path)
  | dependencies (project : Path)
  | download (url : String) (destination : Path)
  | convert (jar changelog : Path)
  deriving DecidableEq

/-- What a collaborator leaves beside its answer: a record, or bytes on a stream it shares with the
run. -/
inductive Aside where
  | record (record : Record)
  | output (stream : Stream) (bytes : Bytes)
  deriving DecidableEq

/-- One thing that happened in a run. -/
inductive Event where
  | asked (request : Request)
  | said (message : Message)
  | aside (aside : Aside)
  deriving DecidableEq

/-- The state of a run: the disk, the collaborators' memory, and what has happened. -/
structure World (σ : Type) where
  disk : Disk
  cwd : Location
  memory : σ
  events : List Event

/-- What a collaborator answers to a request, and what it leaves behind. -/
structure Reply (σ α : Type) where
  answer : Except Failure α
  disk : Disk
  memory : σ
  asides : List Aside

/-- A step of a run: it fails or gives a result, and the world has moved on in either case. -/
abbrev Action (σ : Type) := ExceptT Failure (StateM (World σ))

namespace World

variable {σ α : Type}

/-- The disk as the run sees it. -/
def view (world : World σ) : View :=
  ⟨world.disk, world.cwd⟩

/-- The world after more has happened. -/
def add (world : World σ) (events : List Event) : World σ :=
  { world with events := world.events ++ events }

end World

namespace Action

variable {σ α : Type}

/-- Looks at the disk. -/
def view : Action σ View := do
  return (← get).view

/-- Prints a message. -/
def say (message : Message) : Action σ Unit :=
  modify (·.add [.said message])

/-- Leaves records. -/
def note (records : List Record) : Action σ Unit :=
  modify (·.add (records.map fun record => .aside (.record record)))

/-- Asks a collaborator. That it was asked comes first, then what it left beside its answer. -/
def ask (request : Request) (collaborator : View → σ → Reply σ α) : Action σ α :=
  fun world =>
    let reply := collaborator world.view world.memory
    let events := Event.asked request :: reply.asides.map Event.aside
    (reply.answer, { (world.add events) with disk := reply.disk, memory := reply.memory })

/-- Runs a step in a world. -/
def perform (action : Action σ α) (world : World σ) : Except Failure α × World σ :=
  action world

end Action

end ChangelogSql
