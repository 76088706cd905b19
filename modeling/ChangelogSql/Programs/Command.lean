import ChangelogSql.Programs.Machine
import ChangelogSql.Text.Terminal

/-!
Running a program by name. There are three ways, which differ in what becomes of
its output: it is captured as one text, it goes where the run's own output goes,
or it is thrown away. The launch itself, its failures and its records are the
same for all three.
-/

namespace ChangelogSql.Programs

open Files

/-- A command line and the directory it is run in. -/
structure Command where
  program : String
  arguments : List Bytes
  directory? : Option Path
  deriving DecidableEq

/-- A launch: why it failed or what the program left, and the records made. -/
structure Launch (σ α : Type) where
  result : Except LaunchFailure α
  finished? : Option (Finished σ)
  records : List Record

/-- What a captured program gives: how it ended and the text it wrote to either stream. -/
structure Capture where
  status : Status
  text : String
  deriving DecidableEq

namespace Command

variable {σ : Type}

/-- The command as a line of text. -/
def line (command : Command) : String :=
  let words := command.arguments.foldl (fun line argument => line ++ " " ++ argument.shown)
    command.program
  match command.directory? with
  | none => words
  | some directory => words ++ " (in " ++ directory.shown ++ ")"

/-- Finds the program and runs it to its end, or until all of its output is there. That it is run is
recorded as soon as it is found. -/
def launch (command : Command) (awaitsOutput : Bool) (machine : Machine σ) (view : View)
    (memory : σ) : Launch σ (Finished σ) :=
  match locate? machine.searchPath view command.program with
  | none => ⟨.error (.notFound command.program), none, []⟩
  | some program =>
    let records := [Record.debug .commands ("Running " ++ command.line)]
    match machine.start
      ⟨program, program.bytes, command.arguments, command.directory?, awaitsOutput⟩ view memory with
    | .error fault => ⟨.error (.refused command.program fault), none, records⟩
    | .ok finished => ⟨.ok finished, some finished, records⟩

/-- The bytes a finished program wrote, both streams as one. -/
def written (finished : Finished σ) : Bytes :=
  finished.output.flatMap (·.2)

/-- Runs the program and keeps what it writes as plain text. -/
def capture (command : Command) (machine : Machine σ) (view : View) (memory : σ) :
    Launch σ Capture :=
  let launched := command.launch true machine view memory
  match launched.result with
  | .error failure => ⟨.error failure, none, launched.records⟩
  | .ok finished =>
    let text := Text.Terminal.captured (written finished)
    let record := Record.debug .commands (command.program ++ " exited with "
      ++ finished.status.message ++ " (" ++ toString text.utf8ByteSize ++ " bytes of output)")
    ⟨.ok ⟨finished.status, text⟩, some finished, launched.records ++ [record]⟩

/-- Runs the program and gives how it ended. Its output is in what it left. -/
def status (command : Command) (machine : Machine σ) (view : View) (memory : σ) :
    Launch σ Status :=
  let launched := command.launch false machine view memory
  ⟨launched.result.map (·.status), launched.finished?, launched.records⟩

end Command

end ChangelogSql.Programs
