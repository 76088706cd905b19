import ChangelogSql.CommandLine.Usage
import ChangelogSql.Conversion.Run
import ChangelogSql.Log.Filter
import ChangelogSql.Log.Record
import ChangelogSql.Text.Quoted
import ChangelogSql.Toolchain.Installed
import ChangelogSql.Transcript

/-!
The whole program: arguments are read, the settings are settled, the run is done
with the programs of a machine, and how it ended is told by messages and by the
exit code. The code is zero where the run went through or only information was
asked for, two where the arguments were refused, and one otherwise.
-/

namespace ChangelogSql.CommandLine

open Files Programs

variable {σ : Type}

/-- What the program is started with: its arguments, the filter for records where one is given,
whether colours are wanted, and what records show as the time. -/
structure Start where
  arguments : List Bytes
  filter? : Option String
  colored : Bool
  clock : String

/-- The filter where none is given. -/
def defaultFilter : String :=
  "warn"

namespace Start

/-- The filter, with what is wrong with its text. -/
def filter (start : Start) : Log.Filter × List Log.FilterFault :=
  Log.Filter.ofText (start.filter?.getD defaultFilter)

/-- What an event puts on the streams. -/
def output (start : Start) : Event → List (Stream × Bytes)
  | .asked _ => []
  | .said message => [(.out, Bytes.ofString (message.render start.colored))]
  | .aside (.output stream bytes) => [(stream, bytes)]
  | .aside (.record record) =>
    if start.filter.1.shows record then
      [(.err, Bytes.ofString (Log.line start.colored start.clock record))]
    else []

/-- What is told of a failure: its message, and a line for each cause. -/
def report (start : Start) (failure : Failure) : String :=
  let first := Emphasis.red.apply start.colored "Error:" ++ " " ++ failure.message ++ "\n"
  failure.causes.foldl (fun text cause => text ++ "  " ++ cause ++ "\n") first

end Start

/-- The record of the settings a run has. -/
def settingsRecord (settings : Settings) : Record :=
  .debug .program ("Using Config \x7b root: " ++ Text.Quoted.ofBytes settings.root.bytes
    ++ ", artifact_dir: " ++ Text.Quoted.ofBytes settings.artifactDirectory.bytes
    ++ ", base_url: " ++ Text.Quoted.ofText settings.baseUrl ++ " \x7d")

/-- The run the arguments ask for. Its summary is told only where something was converted. -/
def convert (tools : Toolchain σ) (arguments : Arguments) : Action σ Conversion.Summary := do
  match Settings.settle (← Action.view) arguments.root? arguments.artifactDirectory? with
  | .error failure => throw failure
  | .ok settings =>
    Action.note [settingsRecord settings]
    let summary ← Conversion.run tools settings
    unless summary.converted.isEmpty do
      Action.say (.summary summary.converted.length summary.manifests summary.downloads)
    return summary

/-- Runs the program on a machine. -/
def run (start : Start) (machine : Machine σ) (view : View) (memory : σ) : Finished σ :=
  let only (code : UInt8) (stream : Stream) (notice : Notice) : Finished σ :=
    ⟨.exited code, [(stream, Bytes.ofString (notice.render start.colored))], view.disk, memory⟩
  match Reading.ofArguments start.arguments with
  | .inform .help => only 0 .out Notice.help
  | .inform .version => only 0 .out Notice.version
  | .refused refusal => only 2 .err (Notice.refusal refusal)
  | .run arguments =>
    let warnings := start.filter.2.map fun fault =>
      (Stream.err, Bytes.ofString (Log.warning fault))
    let (outcome, world) := (convert (Toolchain.Installed.toolchain machine) arguments).perform
      ⟨view.disk, view.cwd, memory, []⟩
    let output := warnings ++ world.events.flatMap start.output
    match outcome with
    | .ok _ => ⟨.exited 0, output, world.disk, world.memory⟩
    | .error failure =>
      ⟨.exited 1, output ++ [(.err, Bytes.ofString (start.report failure))], world.disk,
        world.memory⟩

end ChangelogSql.CommandLine
