import ChangelogSql.Output
import ChangelogSql.Programs.Command
import ChangelogSql.Toolchain

/-!
The collaborators as programs of a machine: `git`, `mvn`, `curl` and `java`.
Only `git` and `java` are judged by how they end; what `mvn` wrote counts
however it ended, and a `curl` that failed hands over what it wrote.
-/

namespace ChangelogSql.Toolchain.Installed

open Files Programs

variable {σ α β : Type}

/-- The reply a launch amounts to. Where the program shares the streams of the run, its output is
part of what is left beside the answer. -/
def reply (view : View) (memory : σ) (shared : Bool) (launch : Launch σ α) (answer : α → β)
    (notes : α → List Record) : Reply σ β :=
  let records := launch.records.map Aside.record
  let output :=
    match launch.finished? with
    | some finished =>
      if shared then finished.output.map fun written => .output written.1 written.2 else []
    | none => []
  let disk := (launch.finished?.map (·.disk)).getD view.disk
  let memory := (launch.finished?.map (·.memory)).getD memory
  match launch.result with
  | .error failure => ⟨.error (.launch failure), disk, memory, records ++ output⟩
  | .ok result =>
    ⟨.ok (answer result), disk, memory, records ++ output ++ (notes result).map .record⟩

/-- Asks for the state of the working tree that holds a directory. -/
def gitStatus (root : Path) : Command :=
  ⟨"git", [Bytes.ofString "status"], some root⟩

/-- Lists the dependencies of a project. -/
def mvnList (project : Path) : Command :=
  ⟨"mvn", [Bytes.ofString "dependency:list"], some project⟩

/-- Downloads a URL to a path, following redirections; an error page is no download. -/
def curlDownload (url : String) (destination : Path) : Command :=
  ⟨"curl", [Bytes.ofString url, Bytes.ofString "-o", destination.bytes, Bytes.ofString "--fail",
    Bytes.ofString "--location"], none⟩

/-- Runs a converter's jar on a changelog, in the changelog's directory. -/
def javaConvert (jar changelog : Path) : Command :=
  ⟨"java", [Bytes.ofString "-jar", jar.bytes, Bytes.ofString "-t", Bytes.ofString Output.format,
    Bytes.ofString "-db", Bytes.ofString Output.dialect, changelog.bytes],
    some (Output.workingDirectory changelog)⟩

def workingTree (machine : Machine σ) (root : Path) (view : View) (memory : σ) : Reply σ Bool :=
  reply view memory false ((gitStatus root).status machine view memory) Status.success
    fun _ => []

def dependencies (machine : Machine σ) (project : Path) (view : View) (memory : σ) :
    Reply σ String :=
  reply view memory false ((mvnList project).capture machine view memory) Capture.text
    fun capture =>
      if capture.status.success then []
      else [.debug .resolution ("mvn dependency:list exited with " ++ capture.status.message)]

def download (machine : Machine σ) (url : String) (destination : Path) (view : View)
    (memory : σ) : Reply σ Download :=
  reply view memory false ((curlDownload url destination).capture machine view memory)
    (fun capture => if capture.status.success then .fetched else .failed capture.text)
    fun _ => []

def convert (machine : Machine σ) (jar changelog : Path) (view : View) (memory : σ) :
    Reply σ Bool :=
  reply view memory true ((javaConvert jar changelog).status machine view memory) Status.success
    fun _ => []

/-- The toolchain of a machine. -/
def toolchain (machine : Machine σ) : Toolchain σ where
  workingTree := workingTree machine
  dependencies := dependencies machine
  download := download machine
  convert := convert machine

end ChangelogSql.Toolchain.Installed
