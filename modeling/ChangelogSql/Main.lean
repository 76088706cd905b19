import ChangelogSql.CommandLine.Run
import ChangelogSql.Local.Machine

/-!
The command line of the program, on a machine that has its own utilities and an
empty disk.
-/

namespace ChangelogSql.Main

open Programs

/-- The variables of the machine's programs. -/
def environment : Environment :=
  [(Bytes.ofString "PATH", Bytes.ofString "/usr/bin:/bin")]

/-- What the program does with its arguments. -/
def outcome (arguments : List String) : Finished Unit :=
  CommandLine.run ⟨arguments.map Bytes.ofString, none, false, ""⟩ (Local.machine environment)
    ⟨Local.freshDisk, []⟩ ()

/-- The code a process ends with. -/
def exitCode : Status → UInt32
  | .exited code => code.toUInt32
  | .killed signal => 128 + UInt32.ofNat signal

end ChangelogSql.Main

def main (arguments : List String) : IO UInt32 := do
  let finished := ChangelogSql.Main.outcome arguments
  for (stream, bytes) in finished.output do
    let target ←
      match stream with
      | .out => IO.getStdout
      | .err => IO.getStderr
    target.write (ByteArray.mk bytes.toArray)
  return ChangelogSql.Main.exitCode finished.status
