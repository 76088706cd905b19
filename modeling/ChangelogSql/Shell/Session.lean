import ChangelogSql.Shell.Interpreter

/-!
A shell from its start to its end: what it takes over from the process that
started it, where its script comes from, and how it ends.
-/

namespace ChangelogSql.Shell

open Text (ascii)
open Files Programs Kernel

namespace State

/-- The variables that every shell has. -/
def usualVariables : List (Bytes × Variable) :=
  [("IFS", " \t\n"), ("PATH", usualPlaces), ("PS1", "$ "), ("PS2", "> "), ("PS4", "+ "),
    ("OPTIND", "1")].map fun (name, value) =>
      (Bytes.ofString name, ⟨some (Bytes.ofString value), false, false⟩)

/-- A shell that has taken over the variables of an environment. -/
def start (name : Bytes) (environment : Environment) (process parent : Nat)
    (ignored : List Nat) : State :=
  let empty : State :=
    { name, arguments := [], bindings := usualVariables, frames := [], functions := []
      aliases := [], options := [], traps := [], fixedSignals := ignored, signals := []
      documents := [], nextDocument := 0, status := 0, substituted := 0, ending? := none
      background? := none, jobs := [], process, directory := [], line := 0, readLine := 0
      command? := none, loops := 0, optionIndex := 1, optionOffset := 0, held := [], found := []
      isTracing := false }
  let given := environment.filter fun entry => Text.Ascii.isName entry.1
  let taken := given.foldl
    (fun state entry => state.setVariable entry.1 (some ⟨some entry.2, true, false⟩)) empty
  let reset (state : State) (name value : String) : State :=
    let isExported := (state.bindings.lookup (Bytes.ofString name)).any Variable.isExported
    state.setVariable (Bytes.ofString name) (some ⟨some (Bytes.ofString value), isExported, false⟩)
  reset (reset (reset taken "IFS" " \t\n") "OPTIND" "1") "PPID" (toString parent)

end State

namespace Session

/-- Keeps in mind where the shell is: as a variable says, where that is right. -/
def settle : Work Unit := do
  let state ← get
  let view ← Work.ask Kernel.Request.view
  let isRight : Bool :=
    match state.value? (Bytes.ofString "PWD") with
    | some (0x2F :: rest) =>
      match view.locate ⟨0x2F :: rest⟩ with
      | .ok location => location = view.cwd && view.currentDirectory.isOk
      | .error _ => false
    | _ => false
  let path ← if isRight then pure (state.valueOf "PWD") else Directory.physical
  Directory.settle path false

/-- Runs the script that words behind the name of the shell ask for. -/
def run (loader : Loader) (words : List Bytes) : Work Unit := do
  settle
  let given ← setOptions true (words.length + 1) words
  let evaluate := Interpreter.evaluate loader Interpreter.depthLimit
  let runText (isLast shows : Bool) (text : Bytes) : Work Unit := do
    let status ← Work.runText (fun hasEnded => evaluate ⟨false, isLast && hasEnded⟩) shows text
    Work.setStatus status
  let takeArguments (arguments : List Bytes) : Work Unit :=
    modify fun state => { state with arguments }
  if given.isText then
    match given.rest with
    | [] => Work.fail (Bytes.ofString "-c requires an argument")
    | text :: rest => do
      match rest with
      | [] => pure ()
      | name :: arguments =>
        modify fun state => { state with name }
        takeArguments arguments
      runText (!(← get).has 's') false text
  else
    match given.rest, (← get).has 's' with
    | name :: arguments, false => do
      let text ← Interpreter.readFile name
      modify fun state => { state with name }
      takeArguments arguments
      runText false true text
    | arguments, _ => do
      takeArguments arguments
      runText false true (← Work.readAll 0 Work.portionLimit [])

/-- A shell as a process. -/
def task (loader : Loader) (call : Call) : Task :=
  Activity.ask (Kernel.Request.look fun process _ =>
    State.start call.name call.environment process.number process.parent process.ignored)
    fun state =>
      Interpreter.asProcess loader Interpreter.depthLimit (run loader call.arguments) state
        (fun _ state => .exit (UInt8.ofNat state.status))
        (fun _ state => .exit (UInt8.ofNat state.status))

end Session

end ChangelogSql.Shell
