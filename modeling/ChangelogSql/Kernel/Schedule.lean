import ChangelogSql.Kernel.Request

/-!
Letting processes run side by side. One process runs until it has to wait or has
had its turn; then the next one does. Where all of them wait, time passes until
the first of those that sleep wakes up.
-/

namespace ChangelogSql.Kernel

open Files Programs

/-- Processes that run side by side. -/
structure Schedule where
  system : System
  /-- Whose turn it is in this round, the next first. -/
  queue : List (Nat × Task)
  /-- Who has had a turn in this round, the last first. -/
  rested : List (Nat × Task)
  /-- Something has been done in this round. -/
  moved : Bool
  /-- When the first of those that sleep wakes up. -/
  wake? : Option Nat

namespace Schedule

/-- How long a request takes, in nanoseconds. -/
def requestTime : Nat := 10000

/-- How many requests make a turn. -/
def turnLength : Nat := 400

/-- How many requests are answered before a run is given up. -/
def patience : Nat := 3000000

/-- The schedule with a process that has had its turn. -/
def rest (schedule : Schedule) (number : Nat) (task : Task) (moved : Bool) (wake? : Option Nat) :
    Schedule :=
  { schedule with
    rested := (number, task) :: schedule.rested
    moved := schedule.moved || moved
    wake? :=
      match schedule.wake?, wake? with
      | some time, some other => some (min time other)
      | some time, none => some time
      | none, other => other }

/-- The schedule after a little time. -/
def tick (schedule : Schedule) (system : System) : Schedule :=
  { schedule with
    system := { system with disk := { system.disk with clock := system.disk.clock + requestTime } } }

/-- The schedule after a process became two. The second one stands at the end. -/
def split (schedule : Schedule) (process : Process) (child : Task) : Schedule × Nat :=
  let number := schedule.system.lastProcess + 1
  let born : Process := { process with number, parent := process.number, pending := [] }
  let system := { schedule.system with
    processes := schedule.system.processes ++ [born], lastProcess := number }
  ({ schedule with system, rested := (number, child) :: schedule.rested, moved := true }, number)

/-- The next round: those that have rested, in their order. -/
def nextRound (schedule : Schedule) (clock : Nat) : Schedule :=
  { schedule with
    system := { schedule.system with disk := { schedule.system.disk with clock } }
    queue := schedule.rested.reverse, rested := [], moved := false, wake? := none }

/-- Runs processes until `isOver` holds or nothing can move. `left` is what is left of a turn. -/
def run (isOver : System → Bool) : Nat → Nat → Schedule → Schedule
  | 0, _, schedule => schedule
  | patience + 1, left, schedule =>
    if isOver schedule.system then schedule
    else
      match schedule.queue with
      | [] =>
        if schedule.rested.isEmpty then schedule
        else if schedule.moved then
          run isOver patience turnLength (schedule.nextRound schedule.system.disk.clock)
        else
          match schedule.wake? with
          | some time => run isOver patience turnLength (schedule.nextRound time)
          | none => schedule
      | (number, task) :: queue =>
        let others := { schedule with queue }
        match schedule.system.process? number with
        | none => run isOver patience turnLength others
        | some process =>
          if process.ended?.isSome then run isOver patience turnLength others
          else
            match left with
            | 0 => run isOver patience turnLength (others.rest number task true none)
            | left + 1 =>
              match task with
              | .exit code =>
                let system := schedule.system.finish number (.exited code)
                run isOver patience turnLength { others with system, moved := true }
              | .fork child next =>
                let (schedule, born) := others.split process child
                run isOver patience left
                  { schedule with queue := (number, next born) :: schedule.queue }
              | .request request =>
                match request number schedule.system with
                | .done task system =>
                  run isOver patience left
                    { (schedule.tick system) with queue := (number, task) :: queue, moved := true }
                | .waiting =>
                  run isOver patience turnLength (others.rest number task false none)
                | .asleep wake =>
                  run isOver patience turnLength (others.rest number task false (some wake))

/-- The schedule with one more process, which comes first. -/
def add (schedule : Schedule) (process : Process) (task : Task) : Schedule :=
  { schedule with
    system := { schedule.system with
      processes := schedule.system.processes ++ [process], lastProcess := process.number }
    queue := schedule.queue ++ [(process.number, task)] }

end Schedule

end ChangelogSql.Kernel
