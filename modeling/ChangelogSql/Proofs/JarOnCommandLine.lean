import ChangelogSql.Proofs.RunAccounting
import ChangelogSql.Proofs.StartingPoints
import ChangelogSql.Toolchain.Installed

/-! The jar of a conversion as the programs of a machine are told of it. It is
looked for and fetched from the directory of the run, but `java` is started in the
directory of the changelog, and the path on its command line is the same. Where
jars are kept in a directory given from the top both mean one file; where it is
given by names from the run's directory they do not, anywhere else. -/
namespace ChangelogSql.JarOnCommandLine
open Files Conversion CallAccounts ResolutionMemo RunCourse RunAccounting StartingPoints
open Programs Toolchain.Installed

variable {σ : Type}

/-- The directory that a command is run in. -/
def runsIn (command : Command) (view : View) : Except Fault Location :=
  match command.directory? with
  | none => .ok view.cwd
  | some directory => view.locate directory

/-- What an argument of a command leads to where the command is run. -/
def denoted (command : Command) (argument : Nat) (view : View) : Except Fault Place := do
  let directory ← runsIn command view
  view.disk.lookup true directory ⟨command.arguments.getD argument []⟩

/-- The jar for a version was there when a call was made, or had just been fetched. -/
def Supplied (cwd : Location) (settings : Settings) (calls : List (Call σ)) (call : Call σ)
    (version : String) : Prop :=
  isThere cwd settings call.before version = true ∨
    ∃ fetching ∈ calls, fetching.after = call.before ∧
      fetching.exchange =
        .download (jarFor settings version).url (jarFor settings version).path (.ok .fetched)

/-- Each conversion among some calls is asked for with a jar that was supplied. -/
def AllSupplied (cwd : Location) (settings : Settings) (calls : List (Call σ)) : Prop :=
  ∀ call ∈ calls, ∀ jar changelog answer, call.exchange = .convert jar changelog answer →
    ∃ version, jar = (jarFor settings version).path ∧ Supplied cwd settings calls call version

variable {tools : Toolchain σ} {cwd : Location} {settings : Settings} {now after : Moment σ}
variable {calls more : List (Call σ)} {changelog : Path} {changelogs : List Path}
variable {earlier blocks : List Block}

theorem Supplied.mono {call : Call σ} {version : String}
    (supplied : Supplied cwd settings calls call version) (within : calls ⊆ more) :
    Supplied cwd settings more call version := by
  rcases supplied with there | ⟨fetching, member, just, exchange⟩
  · exact .inl there
  · exact .inr ⟨fetching, within member, just, exchange⟩

theorem allSupplied_append (first : AllSupplied cwd settings calls)
    (second : AllSupplied cwd settings more) : AllSupplied cwd settings (calls ++ more) := by
  intro call made jar changelog answer asked
  rcases List.mem_append.mp made with made | made
  · obtain ⟨version, same, supplied⟩ := first call made jar changelog answer asked
    exact ⟨version, same, supplied.mono (List.subset_append_left _ _)⟩
  · obtain ⟨version, same, supplied⟩ := second call made jar changelog answer asked
    exact ⟨version, same, supplied.mono (List.subset_append_right _ _)⟩

theorem resolving_supplied {known : Path → Option String} {outcome : Except Failure Resolution}
    (resolving : Resolving tools cwd settings.root known changelog now calls outcome after) :
    AllSupplied cwd settings calls := by
  cases resolving <;> simp [AllSupplied]

theorem supplying_supplied {jar : Jar} {outcome : Except Failure Unit}
    (supplying : Supplying tools cwd jar now calls outcome after) : AllSupplied cwd settings calls := by
  cases supplying <;> simp [AllSupplied]

/-- A jar that has been supplied is there for the conversion that follows. -/
theorem conversion_supplied {version : String} {answer : Except Failure Bool} {finish : Moment σ}
    (supplying : Supplying tools cwd (jarFor settings version) now calls (.ok ()) after) :
    AllSupplied cwd settings
      (calls ++ [⟨after, .convert (jarFor settings version).path changelog answer, finish⟩]) := by
  intro call made jar changelog' answer' asked
  cases supplying with
  | present there =>
    obtain rfl := List.mem_singleton.mp made
    cases asked
    exact ⟨version, rfl, .inl there⟩
  | fetched =>
    rcases List.mem_append.mp made with made | made
    · obtain rfl := List.mem_singleton.mp made
      cases asked
    · obtain rfl := List.mem_singleton.mp made
      cases asked
      exact ⟨version, rfl, .inr ⟨_, List.mem_append_left _ (List.mem_singleton_self _), rfl, rfl⟩⟩

theorem converting_supplied {outcome : Except Failure Block}
    (converting : Converting tools cwd settings earlier changelog now calls outcome after) :
    AllSupplied cwd settings calls := by
  cases converting with
  | unresolved resolving => exact resolving_supplied resolving
  | unsupplied resolving supplying =>
    exact allSupplied_append (resolving_supplied resolving) (supplying_supplied supplying)
  | refused resolving supplying | unconverted resolving supplying | converted resolving supplying =>
    exact allSupplied_append (resolving_supplied resolving) (conversion_supplied supplying)

theorem blocks_supplied {failure? : Option Failure}
    (course : Blocks tools cwd settings earlier changelogs now calls blocks failure? after) :
    AllSupplied cwd settings calls := by
  induction course with
  | done => simp [AllSupplied]
  | failed converting => exact converting_supplied converting
  | converted converting _ ih => exact allSupplied_append (converting_supplied converting) ih

/-- In every run, whatever its collaborators do, a conversion is asked for with a jar
that was found or had just been fetched. -/
theorem course_supplied {outcome : Except Failure Summary}
    (course : Course tools cwd settings now calls outcome after) : AllSupplied cwd settings calls := by
  have guarded {guard : Call σ} {root : Path} {answer : Except Failure Bool}
      (asked : guard.exchange = .workingTree root answer) : AllSupplied cwd settings [guard] := by
    simp [AllSupplied, asked]
  cases course with
  | refused | outside | undiscovered => exact guarded rfl
  | aborted _ _ blocks | finished _ _ blocks =>
    exact allSupplied_append (guarded rfl) (blocks_supplied blocks)

/-- A directory for jars is taken as it is written. -/
theorem settle_directory {view : View} {root? directory? : Option Path}
    (settled : Settings.settle view root? directory? = .ok settings) :
    settings.artifactDirectory = directory?.getD Settings.defaultArtifactDirectory := by
  simp only [Settings.settle, Bind.bind, Except.bind] at settled
  split at settled
  · cases settled
  split at settled <;> cases settled
  rfl

theorem denoted_curl (url : String) (jar : Path) (view : View) :
    denoted (curlDownload url jar) 2 view = view.disk.lookup true view.cwd jar := rfl

theorem denoted_java {jar : Path} {view : View} {place : Location}
    (entered : runsIn (javaConvert jar changelog) view = .ok place) :
    denoted (javaConvert jar changelog) 1 view = view.disk.lookup true place jar := by
  simp only [denoted, entered, Bind.bind, Except.bind]
  rfl

/-- In every run of the programs of a machine, `java` is given the path under which
the jar was found or fetched just before. Where the directory for jars is given
from the top, or not at all, this is the same file as it is for `curl` and for the
run, whatever directory `java` is started in. Where it is given by names from the
run's directory, it is the same only if `java` is started there. -/
theorem jar_on_command_line (machine : Machine σ) (world : World σ) (root? directory? : Option Path)
    {settings : Settings} (settled : Settings.settle world.view root? directory? = .ok settings) :
    ∃ calls,
      Accounts (toolchain machine) world ((run (toolchain machine) settings).perform world).2 calls ∧
      ∀ call ∈ calls, ∀ jar changelog answer, call.exchange = .convert jar changelog answer →
        let now := call.before.view world.cwd
        ∃ version, jar = (jarFor settings version).path ∧
          Supplied world.cwd settings calls call version ∧
          ∀ place, runsIn (javaConvert jar changelog) now = .ok place →
            let curl := curlDownload (jarFor settings version).url jar
            ((directory?.getD Settings.defaultArtifactDirectory).isAbsolute = true →
              denoted (javaConvert jar changelog) 1 now = denoted curl 2 now) ∧
            ((directory?.getD Settings.defaultArtifactDirectory).isAbsolute = false →
              isLevel jar = true → now.isFile jar = true →
              isUnlinked now.disk world.cwd (namesOf jar) = true →
              isUnlinked now.disk place (namesOf jar) = true →
              (denoted (javaConvert jar changelog) 1 now = denoted curl 2 now ↔
                place = world.cwd)) := by
  obtain ⟨calls, outcome, after, course⟩ :=
    course_total (toolchain machine) world.cwd settings (momentOf world)
  obtain ⟨final, performed, account, -⟩ := run_performs course world rfl rfl
  refine ⟨calls, performed ▸ account, fun call made jar changelog answer asked => ?_⟩
  intro now
  obtain ⟨version, written, supplied⟩ := course_supplied course call made jar changelog answer asked
  have start : jar.isAbsolute = (directory?.getD Settings.defaultArtifactDirectory).isAbsolute := by
    rw [← settle_directory settled, written]
    exact join_isAbsolute (jar_name_relative version)
  refine ⟨version, written, supplied, fun place entered => ?_⟩
  intro curl
  rw [denoted_curl, denoted_java entered]
  refine ⟨fun fromTop => ?_, fun relative level there free free' => ?_⟩
  · exact lookup_absolute (start.trans fromTop) _ _
  · exact lookup_eq_iff (start.trans relative) level there free free'

/-- A disk with three programs, the small project, and a directory with its jar. -/
def shelfDisk : Disk where
  top := .cons ⟨Bytes.ofString "bin", by decide⟩ (.directory programMode
      (.cons ⟨Bytes.ofString "git", by decide⟩ (.file 2)
        (.cons ⟨Bytes.ofString "java", by decide⟩ (.file 2)
          (.cons ⟨Bytes.ofString "mvn", by decide⟩ (.file 2) .nil))))
    (.cons ⟨Bytes.ofString "jars", by decide⟩ (.directory programMode
        (.cons ⟨Bytes.ofString "liquify-4.1.jar", by decide⟩ (.file 1) .nil))
      smallDisk.top)
  files := smallDisk.files.push ⟨.program "true", programMode, 0⟩
  clock := 0
  tidy := rfl

/-- A machine on which every program lists one dependency and is content. -/
def contentMachine : Machine Unit where
  searchPath := [Path.ofString "/bin"]
  start _ view memory :=
    .ok ⟨.exited 0, [(.out, Bytes.ofString "org.liquibase:liquibase-core:jar:4.1")], view.disk, memory⟩

/-- The run is started at the top. -/
def shelfWorld : World Unit :=
  ⟨shelfDisk, [], (), []⟩

/-- The settings with a directory for jars. -/
def shelfSettings (directory : Path) : Settings :=
  ⟨Path.ofString "/p", directory, Jar.releases⟩

/-- A conversion in a run that finds its jar. -/
def shelfConversion (directory changelog : Path) : Call Unit :=
  ⟨⟨shelfDisk, ()⟩, .convert (jarFor (shelfSettings directory) "4.1").path changelog (.ok true),
    ⟨shelfDisk, ()⟩⟩

/-- What every project lists. -/
def shelfListing : String := "org.liquibase:liquibase-core:jar:4.1"

/-- The calls of a run that finds its jar. -/
def shelfCalls (directory : Path) : List (Call Unit) :=
  let now : Moment Unit := ⟨shelfDisk, ()⟩
  [⟨now, .workingTree (Path.ofString "/p") (.ok true), now⟩,
    ⟨now, .dependencies (Path.ofString "/p") (.ok shelfListing), now⟩,
    shelfConversion directory (Path.ofString "/p/a.xml"),
    shelfConversion directory (Path.ofString "/p/b.xml"),
    ⟨now, .dependencies (Path.ofString "/p/q") (.ok shelfListing), now⟩,
    shelfConversion directory (Path.ofString "/p/q/c.xml")]

theorem shelf_discovery :
    (Discovery.changelogs shelfWorld.view (Path.ofString "/p")).1 = .ok smallChangelogs := by
  have there : shelfWorld.view.stat (Path.ofString "/p") = .ok smallProject := rfl
  have visits := small_visits there
  simp only [Discovery.changelogs, Discovery.scan, visits]
  decide

/-- A program that is found is content and leaves the disk as it is. -/
theorem content_status (command : Command) (view : View)
    (found : (locate? contentMachine.searchPath view command.program).isSome = true) (shared : Bool)
    (answer : Status → Bool) (notes : Status → List Record) :
    Gives (reply view () shared (command.status contentMachine view ()) answer notes)
      (.ok (answer (.exited 0))) ⟨view.disk, ()⟩ := by
  obtain ⟨program, found⟩ := Option.isSome_iff_exists.mp found
  simp only [Command.status, Command.launch, found]
  exact ⟨rfl, rfl, rfl⟩

theorem shelf_guarded (root : Path) :
    Answered (toolchain contentMachine) [] ⟨shelfDisk, ()⟩ (.workingTree root (.ok true))
      ⟨shelfDisk, ()⟩ := by
  have found : (locate? contentMachine.searchPath ⟨shelfDisk, []⟩ "git").isSome = true := by decide
  exact content_status (gitStatus root) ⟨shelfDisk, []⟩ found false Status.success fun _ => []

theorem shelf_converted (jar changelog : Path) :
    Answered (toolchain contentMachine) [] ⟨shelfDisk, ()⟩ (.convert jar changelog (.ok true))
      ⟨shelfDisk, ()⟩ := by
  have found : (locate? contentMachine.searchPath ⟨shelfDisk, []⟩ "java").isSome = true := by decide
  exact content_status (javaConvert jar changelog) ⟨shelfDisk, []⟩ found true Status.success
    fun _ => []

theorem shelf_listed (project : Path) :
    Answered (toolchain contentMachine) [] ⟨shelfDisk, ()⟩ (.dependencies project (.ok shelfListing))
      ⟨shelfDisk, ()⟩ := by
  have found : (locate? contentMachine.searchPath ⟨shelfDisk, []⟩ "mvn").isSome = true := by decide
  obtain ⟨program, found⟩ := Option.isSome_iff_exists.mp found
  have text : Text.Terminal.captured (Bytes.ofString shelfListing ++ []) = shelfListing := by
    decide +kernel
  have named : (mvnList project).program = "mvn" := rfl
  change Gives (dependencies contentMachine project ⟨shelfDisk, []⟩ ()) _ _
  simp only [dependencies, Command.capture, Command.launch, named, found]
  exact ⟨congrArg Except.ok text, rfl, rfl⟩

section Shelf
variable {directory changelog manifest project : Path} {earlier : List Block}

/-- A changelog is converted after its project has been listed. -/
theorem shelf_block_listed
    (there : isThere [] (shelfSettings directory) (⟨shelfDisk, ()⟩ : Moment Unit) "4.1" = true)
    (nearest : manifestAt [] (shelfSettings directory).root changelog (⟨shelfDisk, ()⟩ : Moment Unit) =
      some manifest)
    (new : versionFrom earlier manifest = none) (above : manifest.parent? = some project) :
    Converting (toolchain contentMachine) [] (shelfSettings directory) earlier changelog ⟨shelfDisk, ()⟩
      [⟨⟨shelfDisk, ()⟩, .dependencies project (.ok shelfListing), ⟨shelfDisk, ()⟩⟩,
        shelfConversion directory changelog]
      (.ok ⟨changelog, manifest, "4.1"⟩) ⟨shelfDisk, ()⟩ := by
  have version : Version.inListing? shelfListing = some "4.1" := by decide
  exact .converted (.listed nearest new above (shelf_listed project) version) (.present there)
    (shelf_converted _ changelog)

/-- A changelog is converted with the version of an earlier one. -/
theorem shelf_block_remembered
    (there : isThere [] (shelfSettings directory) (⟨shelfDisk, ()⟩ : Moment Unit) "4.1" = true)
    (nearest : manifestAt [] (shelfSettings directory).root changelog (⟨shelfDisk, ()⟩ : Moment Unit) =
      some manifest)
    (met : versionFrom earlier manifest = some "4.1") :
    Converting (toolchain contentMachine) [] (shelfSettings directory) earlier changelog ⟨shelfDisk, ()⟩
      [shelfConversion directory changelog] (.ok ⟨changelog, manifest, "4.1"⟩) ⟨shelfDisk, ()⟩ :=
  .converted (.remembered nearest met) (.present there) (shelf_converted _ changelog)

/-- The course of a run that finds its jar. -/
theorem shelf_course
    (there : isThere [] (shelfSettings directory) (⟨shelfDisk, ()⟩ : Moment Unit) "4.1" = true) :
    Course (toolchain contentMachine) [] (shelfSettings directory) ⟨shelfDisk, ()⟩
      (shelfCalls directory) (.ok ⟨smallChangelogs, 2, 0⟩) ⟨shelfDisk, ()⟩ := by
  have first : manifestAt [] (Path.ofString "/p") (Path.ofString "/p/a.xml")
      (⟨shelfDisk, ()⟩ : Moment Unit) = some (Path.ofString "/p/pom.xml") := by decide
  have second : manifestAt [] (Path.ofString "/p") (Path.ofString "/p/b.xml")
      (⟨shelfDisk, ()⟩ : Moment Unit) = some (Path.ofString "/p/pom.xml") := by decide
  have third : manifestAt [] (Path.ofString "/p") (Path.ofString "/p/q/c.xml")
      (⟨shelfDisk, ()⟩ : Moment Unit) = some (Path.ofString "/p/q/pom.xml") := by decide
  exact .finished (shelf_guarded _) shelf_discovery
    (.converted (shelf_block_listed there first rfl (by decide))
      (.converted (shelf_block_remembered there second rfl)
        (.converted (shelf_block_listed there third rfl (by decide)) .done)))

end Shelf

theorem shelf_accounts {directory : Path}
    (there : isThere [] (shelfSettings directory) (⟨shelfDisk, ()⟩ : Moment Unit) "4.1" = true) :
    Accounts (toolchain contentMachine) shelfWorld
      ((run (toolchain contentMachine) (shelfSettings directory)).perform shelfWorld).2
      (shelfCalls directory) := by
  obtain ⟨final, performed, account, -⟩ := run_performs (shelf_course there) shelfWorld rfl rfl
  rw [performed]
  exact account

theorem shelf_jar_path :
    (jarFor (shelfSettings (Path.ofString "jars")) "4.1").path = Path.ofString "jars/liquify-4.1.jar" := by
  decide

/-- The small project is converted with the jar that was found if the directory for
jars is given from the top, and it is not if it is given by its name. -/
theorem shelf_jars :
    ∃ call call' : Call Unit,
      call ∈ shelfCalls (Path.ofString "/jars") ∧ call' ∈ shelfCalls (Path.ofString "jars") ∧
      call.exchange =
        .convert (Path.ofString "/jars/liquify-4.1.jar") (Path.ofString "/p/b.xml") (.ok true) ∧
      call'.exchange =
        .convert (Path.ofString "jars/liquify-4.1.jar") (Path.ofString "/p/b.xml") (.ok true) ∧
      denoted (javaConvert (Path.ofString "/jars/liquify-4.1.jar") (Path.ofString "/p/b.xml")) 1
          (call.before.view []) =
        call.before.disk.lookup true [] (Path.ofString "/jars/liquify-4.1.jar") ∧
      denoted (javaConvert (Path.ofString "jars/liquify-4.1.jar") (Path.ofString "/p/b.xml")) 1
          (call'.before.view []) ≠
        call'.before.disk.lookup true [] (Path.ofString "jars/liquify-4.1.jar") := by
  obtain ⟨calls, account, fromTop⟩ := jar_on_command_line contentMachine shelfWorld
    (some (Path.ofString "/p")) (some (Path.ofString "/jars"))
    (show Settings.settle _ _ _ = .ok (shelfSettings (Path.ofString "/jars")) from rfl)
  obtain ⟨calls', account', byName⟩ := jar_on_command_line contentMachine shelfWorld
    (some (Path.ofString "/p")) (some (Path.ofString "jars"))
    (show Settings.settle _ _ _ = .ok (shelfSettings (Path.ofString "jars")) from rfl)
  obtain rfl := account.unique (shelf_accounts (by decide))
  obtain rfl := account'.unique (shelf_accounts (by decide))
  have member (directory : Path) :
      shelfConversion directory (Path.ofString "/p/b.xml") ∈ shelfCalls directory := by
    simp [shelfCalls]
  have jar_path : (jarFor (shelfSettings (Path.ofString "/jars")) "4.1").path =
      Path.ofString "/jars/liquify-4.1.jar" := by decide
  refine ⟨shelfConversion (Path.ofString "/jars") (Path.ofString "/p/b.xml"),
    shelfConversion (Path.ofString "jars") (Path.ofString "/p/b.xml"), member _, member _, ?_, ?_, ?_,
    fun same => ?_⟩
  · rw [shelfConversion, jar_path]
  · rw [shelfConversion, shelf_jar_path]
  · obtain ⟨version, -, -, agree⟩ := fromTop _ (member _) _ _ _ rfl
    rw [jar_path] at agree
    exact (agree [smallName] rfl).1 rfl
  · obtain ⟨version, -, -, agree⟩ := byName _ (member _) _ _ _ rfl
    rw [shelf_jar_path] at agree
    have only := (agree [smallName] rfl).2 rfl (by decide) (by decide) (by decide) (by decide)
    cases only.mp same

/-- A jar that the run has found is not there for `java`, which is given the same
path, as soon as the directory for jars is given by its name. -/
theorem found_jar_missing_for_java :
    Settings.settle shelfWorld.view (some (Path.ofString "/p")) (some (Path.ofString "jars")) =
        .ok (shelfSettings (Path.ofString "jars")) ∧
      Accounts (toolchain contentMachine) shelfWorld
        ((run (toolchain contentMachine) (shelfSettings (Path.ofString "jars"))).perform shelfWorld).2
        (shelfCalls (Path.ofString "jars")) ∧
      ∃ call ∈ shelfCalls (Path.ofString "jars"),
        call.exchange =
          .convert (Path.ofString "jars/liquify-4.1.jar") (Path.ofString "/p/b.xml") (.ok true) ∧
        (call.before.view shelfWorld.cwd).isFile (Path.ofString "jars/liquify-4.1.jar") = true ∧
        denoted (javaConvert (Path.ofString "jars/liquify-4.1.jar") (Path.ofString "/p/b.xml")) 1
          (call.before.view shelfWorld.cwd) = .error .notFound := by
  refine ⟨rfl, shelf_accounts (by decide),
    shelfConversion (Path.ofString "jars") (Path.ofString "/p/b.xml"), ?_, ?_, ?_, rfl⟩
  · simp [shelfCalls]
  · rw [shelfConversion, shelf_jar_path]
  · decide

end ChangelogSql.JarOnCommandLine
