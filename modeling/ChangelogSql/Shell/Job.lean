import ChangelogSql.Shell.State
import ChangelogSql.Shell.Option
import ChangelogSql.Shell.Signal

/-!
Jobs: processes that a shell has started together. The shell waits for a job in
front, and keeps in mind what it knows of the others.
-/

namespace ChangelogSql.Shell

open Text (ascii)
open Files Programs Kernel

/-- How often a shell waits at most for one job. -/
def waitLimit : Nat := 1000000

/-- The status with which the end of a process is seen by a shell. -/
def statusOf : Status → Nat
  | .exited code => code.toNat
  | .killed signal => 128 + signal

/-- What a shell says about a process that a signal has ended. Two signals are usual ends. -/
def noticeOf : Status → Bytes
  | .exited _ => []
  | .killed signal =>
    if signal = 2 || signal = 13 then [] else Bytes.ofString (Signal.description signal ++ "\n")

namespace Job

/-- All of its processes have ended. -/
def isDone (job : Job) : Bool :=
  job.processes.all fun process => process.2.isSome

/-- The status of its last process. -/
def status (job : Job) : Nat :=
  match job.processes.getLast? with
  | some (_, some status) => statusOf status
  | _ => 0

/-- The job with what is known of a process now. -/
def record (job : Job) (number : Nat) (status : Status) : Job :=
  { job with
    processes := job.processes.map fun process =>
      if process.1 = number then (number, some status) else process }

end Job

namespace State

/-- The job with a number. -/
def job? (state : State) (number : Nat) : Option Job :=
  state.jobs.find? (·.number = number)

/-- The state without a job. -/
def removeJob (state : State) (number : Nat) : State :=
  { state with jobs := state.jobs.filter (·.number ≠ number) }

/-- The state with a job changed. -/
def alterJob (state : State) (number : Nat) (change : Job → Job) : State :=
  { state with
    jobs := state.jobs.map fun job => if job.number = number then change job else job }

end State

namespace Work

/-- Takes notice of signals that have come. -/
def collectSignals : Work Unit := do
  let signals ← ask Kernel.Request.takeSignals
  modify fun state => { state with signals := state.signals ++ signals }

/-- Makes a job without processes, and gives its number. Jobs that have ended and were waited for
are forgotten. -/
def newJob : Work Nat := do
  let state ← get
  let jobs := state.jobs.filter fun job => !(job.isDone && job.isSettled)
  let isFree (number : Nat) : Bool := jobs.all (·.number ≠ number)
  let number := ((List.range (jobs.length + 1)).map (· + 1)).find? isFree |>.getD 1
  set { state with jobs := ⟨number, [], false⟩ :: jobs }
  return number

/-- Lets a signal have no effect, for good. -/
def giveUpSignal (signal : Nat) : Work Unit := do
  unless (← get).fixedSignals.contains signal do
    ask (Kernel.Request.arrange signal .ignored)
    modify fun state => { state with fixedSignals := signal :: state.fixedSignals }

/-- Becomes a shell of its own: what was to be done about signals and which jobs there were belong
to the other one. In the background, nothing can be typed in. -/
def separate (inBackground isFirst : Bool) : Work Unit := do
  let state ← get
  for (signal, action) in state.traps do
    if signal ≠ 0 && action ≠ [] then
      ask (Kernel.Request.arrange signal .usual)
  set { state with
    traps := state.traps.filter fun entry => entry.2 = []
    jobs := [], signals := [] }
  if inBackground then
    giveUpSignal 2
    giveUpSignal 3
    if isFirst then
      let _ ← ask (Kernel.Request.close 0)
      let _ ← ask (Kernel.Request.openPath (Path.ofString "/dev/null") Purpose.reading 0)

/-- Begins a process of a job that does some work in a shell of its own. -/
def forkFor (number : Nat) (inBackground : Bool) (work : Work Unit) : Work Unit := do
  let isFirst := ((← get).job? number).all fun job => job.processes.isEmpty
  let process ← fork do
    separate inBackground isFirst
    work
  modify fun state =>
    let state := state.alterJob number fun job =>
      { job with processes := job.processes ++ [(process, none)] }
    if inBackground then { state with background? := some process } else state

/-- Takes notice of the end of a process. -/
def recordEnd (process : Nat) (status : Status) : Work Unit :=
  modify fun state => { state with jobs := state.jobs.map (·.record process status) }

/-- Waits until a job has ended, and forgets it. The ends of its processes by signals are told. -/
def awaitWithin (number : Nat) : Nat → Work Nat
  | 0 => return 0
  | fuel + 1 => do
    match (← get).job? number with
    | none => return 0
    | some job =>
      if job.isDone then
        modify fun state => state.removeJob number
        return job.status
      else
        match ← ask (Kernel.Request.wait none true) with
        | .ok (some (process, status)) =>
          recordEnd process status
          if job.processes.any (·.1 = process) then
            emit 2 (noticeOf status)
          awaitWithin number fuel
        | .ok none => return 0
        | .error .interrupted =>
          collectSignals
          awaitWithin number fuel
        | .error _ =>
          modify fun state => state.removeJob number
          return 0

/-- Waits until a job has ended, and forgets it. -/
def await (number : Nat) : Work Nat :=
  awaitWithin number waitLimit

/-- Waits until some jobs have ended or a signal has come; tells whether they have ended. -/
def awaitOthers (isOver : State → Bool) : Nat → Work Bool
  | 0 => return true
  | fuel + 1 => do
    if isOver (← get) then return true
    else
      match ← ask (Kernel.Request.wait none true) with
      | .ok (some (process, status)) =>
        recordEnd process status
        awaitOthers isOver fuel
      | .error .interrupted =>
        collectSignals
        if (← get).signals.isEmpty then awaitOthers isOver fuel else return false
      | _ => return true

/-- Takes notice of processes that have ended already. -/
def noticeEnds : Nat → Work Unit
  | 0 => return ()
  | fuel + 1 => do
    match ← ask (Kernel.Request.wait none false) with
    | .ok (some (process, status)) =>
      recordEnd process status
      noticeEnds fuel
    | _ => return ()

/-- The job that a word with a percent sign means. -/
def jobOf (word : Bytes) : Work Job := do
  let state ← get
  let refuse (text : String) : Work Job := fail (Bytes.ofString text)
  let unknown : Work Job := fail (Bytes.ofString "No such job: " ++ word)
  match word with
  | [0x25] | [0x25, 0x2B] | [0x25, 0x25] =>
    match state.jobs.head? with
    | some job => return job
    | none => refuse "No current job"
  | [0x25, 0x2D] =>
    match (state.jobs.drop 1).head? with
    | some job => return job
    | none => refuse "No previous job"
  | 0x25 :: name =>
    match (Text.Ascii.decimal? name).bind state.job? with
    | some job => return job
    | none => unknown
  | _ => unknown

/-- Waits for processes or jobs, or for all of them. -/
def waitFor (arguments : List Bytes) : Work Nat := do
  let targets ← operandsOf arguments
  let interrupted : Work Nat := do
    return 128 + (← get).signals.getLast?.getD 0
  if targets.isEmpty then
    let isOver ← awaitOthers (fun state => state.jobs.all Job.isDone) waitLimit
    if isOver then
      modify fun state =>
        { state with jobs := state.jobs.map fun job => { job with isSettled := true } }
      return 0
    else interrupted
  else
    let rec each : Nat → List Bytes → Work Nat
      | status, [] => return status
      | _, target :: rest => do
        let job? ←
          if target.head? = some (ascii '%') then some <$> jobOf target
          else do
            let process ← numberOf target
            pure ((← get).jobs.find? fun job =>
              job.processes.getLast?.any (·.1 = process))
        match job? with
        | none => each 127 rest
        | some job =>
          let isOver ←
            awaitOthers (fun state => (state.job? job.number).all Job.isDone) waitLimit
          if isOver then
            let status := (((← get).job? job.number).map Job.status).getD 0
            modify fun state =>
              state.alterJob job.number fun job => { job with isSettled := true }
            each status rest
          else interrupted
    each 127 targets

/-- How a job is doing, in words. -/
def jobText (job : Job) : String :=
  if !job.isDone then "Running"
  else
    match job.processes.getLast? with
    | some (_, some (.exited 0)) => "Done"
    | some (_, some (.exited code)) => "Done(" ++ toString code.toNat ++ ")"
    | some (_, some (.killed signal)) => Signal.description signal
    | _ => "Done"

/-- Lists a job, and forgets it if it has ended. -/
def listJob (showsProcess showsGroup : Bool) (job : Job) : Work Unit := do
  let state ← get
  let process := (job.processes.head?.map Prod.fst).getD 0
  let isCurrent := state.jobs.head?.any (·.number = job.number)
  let isPrevious := (state.jobs.drop 1).head?.any (·.number = job.number)
  let sign := if isCurrent then "+" else if isPrevious then "-" else " "
  if showsGroup then
    put (Text.Ascii.ofNat process ++ [0x0A])
  else
    let text := "[" ++ toString job.number ++ "] " ++ sign ++ " "
      ++ (if showsProcess then toString process ++ " " else "") ++ jobText job
    let gap := String.ofList (List.replicate (max 1 (33 - text.length)) ' ')
    let further := (job.processes.drop 1).map fun process =>
      if showsProcess then " |\n      " ++ toString process.1 ++ " " else " | "
    put (Bytes.ofString (text ++ gap ++ String.join further ++ "\n"))
    if job.isDone then
      modify fun state => state.removeJob job.number

/-- Lists jobs. -/
def listJobs (arguments : List Bytes) : Work Nat := do
  let (given, operands) ← optionsOf "lp" "" arguments
  let last? := given.getLast?.map Prod.fst
  noticeEnds waitLimit
  let jobs ← if operands.isEmpty then pure (← get).jobs else operands.mapM jobOf
  for job in jobs do
    listJob (last? = some 'l') (last? = some 'p') job
  return 0

end Work

end ChangelogSql.Shell
