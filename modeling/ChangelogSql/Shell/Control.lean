import ChangelogSql.Shell.State

/-!
Loops. A round of a loop can be left early, and so can loops around it.
-/

namespace ChangelogSql.Shell.Work

/-- How a round of a loop ended. -/
inductive Round where
  | complete
  /-- The next round begins. -/
  | again
  /-- The loop is over. -/
  | over
  deriving DecidableEq

/-- How often a loop goes round at most. -/
def roundLimit : Nat := 10000000

/-- Does work that belongs to a round of a loop. What leaves more loops than this one leaves this one
too. -/
def round (work : Work Unit) : Work Round :=
  tryCatch
    (do
      work
      return .complete)
    fun stop =>
      match stop with
      | .leave 0 | .leave 1 => return .over
      | .again 0 | .again 1 => return .again
      | .leave (levels + 1) => throw (.leave levels)
      | .again (levels + 1) => throw (.again levels)
      | stop => throw stop

/-- Does work inside one more loop. -/
def looping (work : Work Unit) : Work Unit := do
  let before := (← get).loops
  modify fun state => { state with loops := before + 1 }
  thenAlways work <| modify fun state => { state with loops := before }

/-- Goes round a body as long as the condition succeeds, or fails where `untilSuccess` is set. The
status afterwards is that of the last round, and zero where there was none. -/
def goRound (untilSuccess : Bool) (condition body : Work Unit) : Nat → Nat → Work Unit
  | 0, status => setStatus status
  | limit + 1, status => do
    match ← round condition with
    | .over => setStatus status
    | .again => goRound untilSuccess condition body limit status
    | .complete =>
      if ((← get).status = 0) != untilSuccess then
        let round ← round body
        let status := (← get).status
        if round = .over then return ()
        else goRound untilSuccess condition body limit status
      else setStatus status

/-- Goes round a body once for each value of a variable. -/
def iterate (name : Bytes) (body : Work Unit) : List Bytes → Work Unit
  | [] => return ()
  | value :: rest => do
    assign name value
    if (← round body) = .over then return ()
    else iterate name body rest

end ChangelogSql.Shell.Work
