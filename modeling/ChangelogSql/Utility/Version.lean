import ChangelogSql.Repository.Command
import ChangelogSql.Utility.Input

/-!
The program for version control. It reads its input where it needs any, does
everything to the disk at once, and says afterwards what there is to say.
-/

namespace ChangelogSql.Utility.Version

open Files Programs Kernel

/-- Does to the disk what arguments ask for; what was said, and the code. -/
def transact (call : Call) (input : Bytes) :
    Kernel.Request (UInt8 × List (Stream × Bytes)) :=
  Kernel.Request.now fun process system =>
    let view : View := ⟨system.disk, process.cwd⟩
    let outcome :=
      Repository.Command.perform call.arguments view process.umask call.environment input
    ((outcome.code, outcome.said), { system with disk := outcome.disk })

/-- The program for version control. -/
def control (call : Call) : Tool Unit := do
  let input ←
    if Repository.Command.readsInput call.arguments then
      match ← Tool.readAll 0 with
      | .ok bytes => pure bytes
      | .error _ => pure []
    else pure []
  modify fun desk => { desk with name := Bytes.ofString "fatal" }
  Tool.whenUnheard fun reason =>
    if reason = Fault.badDescriptor.reason then (0, [])
    else (128, ["write failure on standard output: " ++ reason])
  let (code, said) ← Tool.ask (transact call input)
  for (stream, bytes) in said do
    match stream with
    | .out => Tool.put bytes
    | .err => Tool.emit bytes
  Tool.setCode code

end ChangelogSql.Utility.Version
