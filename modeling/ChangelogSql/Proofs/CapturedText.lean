import ChangelogSql.Proofs.ByteMachines
import ChangelogSql.Proofs.StoreEvents
import ChangelogSql.Toolchain.Installed
import ChangelogSql.Version

/-! What is kept of the output of a program. In no state does the machine let a control
character through, so what is kept cannot drive a terminal, whatever a program writes
and wherever it stops. A printable text goes through the machine unchanged, and a
complete sequence leads it back to where it was, so that colours leave no trace: a
listing of dependencies names the version it would name without them. -/
namespace ChangelogSql.CapturedText
open Files Programs Conversion Text Text.Terminal ByteMachines StoreEvents Toolchain.Installed

/-- A line feed, or no control character at all: neither an escape character nor any
other below the blank, and none of those that terminals have beyond ASCII. -/
def Printable (c : Char) : Prop :=
  c = '\n' ∨ 0x20 ≤ c.toNat ∧ (c.toNat < 0x80 ∨ 0xA0 ≤ c.toNat)

instance : DecidablePred Printable :=
  fun _ => inferInstanceAs (Decidable (_ ∨ _))

/-- A whole sequence. A control sequence has parameters, of which only the first byte can be
one of `<` to `?`, then intermediate bytes, and a byte that ends it. A command to the system is
any bytes that neither end nor break it off, with a bell or a string terminator behind. -/
inductive Complete : Bytes → Prop
  | control {parameters intermediates : Bytes} {final : UInt8}
      (first : ∀ b ∈ parameters.head?, 0x30 ≤ b ∧ b ≤ 0x3F)
      (others : ∀ b ∈ parameters.tail, 0x30 ≤ b ∧ b ≤ 0x3B)
      (between : ∀ b ∈ intermediates, 0x20 ≤ b ∧ b ≤ 0x2F)
      (ends : 0x40 ≤ final ∧ final ≤ 0x7E) :
      Complete ([0x1B, 0x5B] ++ (parameters ++ (intermediates ++ [final])))
  | command {payload ending : Bytes}
      (carried : ∀ b ∈ payload, b ≠ 0x07 ∧ b ≠ 0x18 ∧ b ≠ 0x1A ∧ b ≠ 0x1B)
      (ends : ending = [0x07] ∨ ending = [0x1B, 0x5C]) :
      Complete ([0x1B, 0x5D] ++ (payload ++ ending))

/-- The bytes are those of the text, with any number of whole sequences in front of each
character and at the end. -/
inductive Colored : List Char → Bytes → Prop
  | nothing : Colored [] []
  | char {c chars bytes} (printable : Printable c) (others : Colored chars bytes) :
      Colored (c :: chars) (String.utf8EncodeChar c ++ bytes)
  | sequence {front chars bytes} (complete : Complete front) (others : Colored chars bytes) :
      Colored chars (front ++ bytes)

variable {σ : Type} {c : Char} {chars : List Char} {bytes : Bytes}

theorem printable_iff : Printable c ↔ c = '\n' ∨ isControl c = false := by
  have range : isControl c = false ↔ 0x20 ≤ c.toNat ∧ (c.toNat < 0x80 ∨ 0xA0 ≤ c.toNat) := by
    simp only [isControl, Bool.or_eq_false_iff, Bool.and_eq_false_iff, decide_eq_false_iff_not]
    omega
  rw [Printable, range]

/-- A printable character is let through as it is, outside of sequences. -/
theorem kept_scalar (printable : Printable c) : kept (.scalar c) = [c] := by
  rcases printable_iff.mp printable with rfl | quiet
  · rfl
  · simp [kept, quiet]

theorem kept_text (printable : ∀ c ∈ chars, Printable c) :
    (chars.map Utf8.Piece.scalar).flatMap kept = chars := by
  induction chars with
  | nil => rfl
  | cons c chars ih =>
    obtain ⟨first, others⟩ := List.forall_mem_cons.mp printable
    rw [List.map_cons, List.flatMap_cons, kept_scalar first, ih others, List.singleton_append]

theorem replacement_printable : Printable '\uFFFD' := by
  decide

/-- Of a cut of the text only what can be printed is let through. -/
theorem kept_printable (piece : Utf8.Piece) : ∀ c ∈ kept piece, Printable c := by
  intro c member
  unfold kept at member
  split at member
  next d =>
    split at member
    next => cases member
    next shown =>
      obtain rfl := List.mem_singleton.mp member
      rw [printable_iff]
      by_cases feed : c = '\n'
      · exact .inl feed
      · exact .inr (by simpa [feed] using shown)
  next b =>
    split at member
    next => cases member
    next => exact List.mem_singleton.mp member ▸ replacement_printable
  next => exact List.mem_singleton.mp member ▸ replacement_printable

theorem effect_printable (b : UInt8) : ∀ c ∈ effect b, Printable c := by
  intro c member
  unfold effect at member
  split at member
  next => exact .inl (List.mem_singleton.mp member)
  next => cases member

/-- In no state does a byte let a control character through. -/
theorem step_printable (state : State) (b : UInt8) : ∀ c ∈ (step state b).2, Printable c := by
  intro c member
  have cuts (pieces : List Utf8.Piece) (among : c ∈ pieces.flatMap kept) : Printable c := by
    obtain ⟨piece, -, let_through⟩ := List.mem_flatMap.mp among
    exact kept_printable piece c let_through
  unfold step at member
  split at member
  next char =>
    split at member
    next => exact cuts _ member
    next => exact cuts _ member
  next =>
    split at member
    next => exact effect_printable b c member
    next => cases member

/-- Whatever the bytes are and wherever the machine stands, all that is let through can
be printed. -/
theorem stripped_printable (state : State) (bytes : Bytes) :
    ∀ c ∈ strippedFrom state bytes, Printable c := by
  induction bytes generalizing state with
  | nil => simp [strippedFrom]
  | cons b bytes ih =>
    intro c member
    rcases List.mem_append.mp member with now | later
    · exact step_printable state b c now
    · exact ih _ c later

/-- A printable text goes through the machine as it is, and leaves it outside of
sequences. -/
theorem takes_text (printable : ∀ c ∈ chars, Printable c) :
    Takes step .start (Utf8.encode chars) chars .start := by
  have escape : '\x1B' ∉ chars := fun member => absurd (printable _ member) (by decide)
  have still : 0x1B ∉ Utf8.encode chars := mt (mem_encode_iff (by decide)).mp escape
  have taken := takes_ground (takes_encode chars) still
  rwa [kept_text printable] at taken

section Sequences
variable {state : State} {parameters intermediates : Bytes} {b final : UInt8}

/-- A control sequence whose head can go on with intermediate bytes or end. -/
def IsOpen (state : State) : Prop :=
  state = .controlEntry ∨ state = .controlParameter ∨ state = .controlIntermediate

theorem step_final (isOpen : IsOpen state) (ends : 0x40 ≤ b ∧ b ≤ 0x7E) :
    step state b = (.start, []) := by
  rcases isOpen with rfl | rfl | rfl <;>
    grind [step, heedsControls, takesEffect, inSequence, inControl, isFinal]

theorem step_intermediate (isOpen : IsOpen state) (between : 0x20 ≤ b ∧ b ≤ 0x2F) :
    step state b = (.controlIntermediate, []) := by
  rcases isOpen with rfl | rfl | rfl <;>
    grind [step, heedsControls, takesEffect, inSequence, inControl, isFinal, isIntermediate]

/-- The first parameter byte opens the parameters, whichever it is. -/
theorem step_parameter (first : 0x30 ≤ b ∧ b ≤ 0x3F) :
    step .controlEntry b = (.controlParameter, []) := by
  grind [step, heedsControls, takesEffect, inSequence, inControl, isFinal, isIntermediate,
    isParameter]

theorem step_further (other : 0x30 ≤ b ∧ b ≤ 0x3B) :
    step .controlParameter b = (.controlParameter, []) := by
  grind [step, heedsControls, takesEffect, inSequence, inControl, isFinal, isIntermediate,
    isParameter]

theorem step_payload (carried : b ≠ 0x07 ∧ b ≠ 0x18 ∧ b ≠ 0x1A ∧ b ≠ 0x1B) :
    step .command b = (.command, []) := by
  simp [step, heedsControls, inSequence, anywhere, carried]

/-- What follows the parameters ends the sequence. -/
theorem takes_ending (isOpen : IsOpen state)
    (between : ∀ b ∈ intermediates, 0x20 ≤ b ∧ b ≤ 0x2F) (ends : 0x40 ≤ final ∧ final ≤ 0x7E) :
    Takes step state (intermediates ++ [final]) [] .start := by
  induction intermediates generalizing state with
  | nil => exact .of_step (step_final isOpen ends)
  | cons b intermediates ih =>
    obtain ⟨first, others⟩ := List.forall_mem_cons.mp between
    exact (Takes.of_step (step_intermediate isOpen first)).append (ih (.inr (.inr rfl)) others)

/-- The parameters leave the sequence open. -/
theorem takes_parameters (first : ∀ b ∈ parameters.head?, 0x30 ≤ b ∧ b ≤ 0x3F)
    (others : ∀ b ∈ parameters.tail, 0x30 ≤ b ∧ b ≤ 0x3B) :
    ∃ state, IsOpen state ∧ Takes step .controlEntry parameters [] state := by
  cases parameters with
  | nil => exact ⟨.controlEntry, .inl rfl, .nothing⟩
  | cons b parameters =>
    have opened := Takes.of_step (step_parameter (first b rfl))
    have stays : Takes step .controlParameter parameters [] .controlParameter :=
      .stays fun b member => step_further (others b member)
    exact ⟨.controlParameter, .inr (.inl rfl), opened.append stays⟩

/-- A whole sequence lets nothing through, and leads back to where it began. -/
theorem takes_complete {front : Bytes} (complete : Complete front) :
    Takes step .start front [] .start := by
  have escaped : Takes step .start [0x1B] [] .escape := .of_step rfl
  cases complete with
  | control first others between ends =>
    have entry : Takes step .start [0x1B, 0x5B] [] .controlEntry := escaped.append (.of_step rfl)
    obtain ⟨state, isOpen, led⟩ := takes_parameters first others
    exact entry.append (led.append (takes_ending isOpen between ends))
  | command carried ends =>
    have entry : Takes step .start [0x1B, 0x5D] [] .command := escaped.append (.of_step rfl)
    have stays := Takes.stays fun b member => step_payload (carried b member)
    refine entry.append (stays.append ?_)
    rcases ends with rfl | rfl
    · exact .of_step rfl
    · have broken : Takes step .command [0x1B] [] .escape := .of_step rfl
      exact broken.append (.of_step rfl)

/-- Of a text with sequences in it the text is let through. -/
theorem takes_colored (colored : Colored chars bytes) : Takes step .start bytes chars .start := by
  induction colored with
  | nothing => exact .nothing
  | @char c chars bytes printable others ih =>
    have alone : ∀ d ∈ [c], Printable d := by simpa using printable
    have taken := (takes_text alone).append ih
    simpa [Utf8.encode] using taken
  | sequence complete others ih => exact (takes_complete complete).append ih

end Sequences

theorem captured_toList (bytes : Bytes) : (captured bytes).toList = stripped bytes := by
  rw [captured, Bytes.shown, String.toList_ofList, decodeLossy_encode]

/-- What is let through up to the end is what is captured, if no sequence is unfinished then. -/
theorem captured_takes (taken : Takes step .start bytes chars .start) :
    captured bytes = String.ofList chars := by
  have whole : stripped bytes = chars := by
    simpa [stripped, strippedFrom] using strippedFrom_append taken []
  rw [captured, whole, Bytes.shown, decodeLossy_encode]

theorem captured_printable (bytes : Bytes) : ∀ c ∈ (captured bytes).toList, Printable c := by
  rw [captured_toList]
  exact stripped_printable .start bytes

/-- What was captured is captured again as it is. -/
theorem captured_again (bytes : Bytes) :
    captured (Bytes.ofString (captured bytes)) = captured bytes := by
  rw [Bytes.ofString, captured_takes (takes_text (captured_printable bytes)), String.ofList_toList]

/-- Captured, a program is known by how it ended and by its output as one text. -/
theorem capture_result (command : Command) (machine : Machine σ) (view : View) (memory : σ) :
    (command.capture machine view memory).result =
      (command.launch true machine view memory).result.map fun finished =>
        ⟨finished.status, captured (Command.written finished)⟩ := by
  unfold Command.capture
  dsimp only
  cases (command.launch true machine view memory).result with
  | error failure => rfl
  | ok finished => rfl

/-- The answer of an installed tool is told by how its program was run. -/
theorem reply_answer {α β : Type} (view : View) (memory : σ) (shared : Bool) (launch : Launch σ α)
    (answer : α → β) (notes : α → List Record) :
    (reply view memory shared launch answer notes).answer =
      match launch.result with
      | .error refusal => .error (.launch refusal)
      | .ok result => .ok (answer result) := by
  rw [reply]
  cases launch.result with
  | error refusal => rfl
  | ok result => rfl

/-- What the installed tools answer when asked for a download: the program could not be run, or
it ended, and then what it wrote is handed over unless it succeeded. -/
theorem download_answer (machine : Machine σ) (url : String) (destination : Path) (view : View)
    (memory : σ) :
    (download machine url destination view memory).answer =
      match ((curlDownload url destination).launch true machine view memory).result with
      | .error refusal => .error (.launch refusal)
      | .ok finished =>
        .ok (if finished.status.success then .fetched
          else .failed (captured (Command.written finished))) := by
  rw [download, reply_answer, capture_result]
  cases ((curlDownload url destination).launch true machine view memory).result with
  | error refusal => rfl
  | ok finished => rfl

/-- What the installed tools answer when asked for dependencies: whatever was written, however
the program ended. -/
theorem dependencies_answer (machine : Machine σ) (project : Path) (view : View) (memory : σ) :
    (dependencies machine project view memory).answer =
      match ((mvnList project).launch true machine view memory).result with
      | .error refusal => .error (.launch refusal)
      | .ok finished => .ok (captured (Command.written finished)) := by
  rw [dependencies, reply_answer, capture_result]
  cases ((mvnList project).launch true machine view memory).result with
  | error refusal => rfl
  | ok finished => rfl

/-- Colours leave no trace. However many whole sequences stand between the characters of a
printable text, also inside a coordinate, what is captured is the text, and so it is with a
child that writes these bytes: the text is what a listing of dependencies gives, and the
version is that of the text. -/
theorem colors_leave_no_trace (colored : Colored chars bytes) :
    captured bytes = String.ofList chars ∧
      Version.inListing? (captured bytes) = Version.inListing? (String.ofList chars) ∧
      ∀ (machine : Machine σ) (view : View) (memory : σ) (finished : Finished σ),
        Command.written finished = bytes →
        (∀ command : Command, (command.launch true machine view memory).result = .ok finished →
          (command.capture machine view memory).result =
            .ok ⟨finished.status, String.ofList chars⟩) ∧
        ∀ project, ((mvnList project).launch true machine view memory).result = .ok finished →
          (dependencies machine project view memory).answer = .ok (String.ofList chars) := by
  have text : captured bytes = String.ofList chars := captured_takes (takes_colored colored)
  refine ⟨text, congrArg Version.inListing? text, fun machine view memory finished wrote => ⟨?_, ?_⟩⟩
  · intro command launched
    rw [capture_result, launched, ← text, ← wrote]
    rfl
  · intro project launched
    rw [dependencies_answer, launched, ← text, ← wrote]

theorem Colored.text {front : List Char} (printable : ∀ c ∈ front, Printable c)
    (others : Colored chars bytes) : Colored (front ++ chars) (Utf8.encode front ++ bytes) := by
  induction front with
  | nil => exact others
  | cons c front ih =>
    obtain ⟨first, further⟩ := List.forall_mem_cons.mp printable
    rw [Utf8.encode, List.flatMap_cons, List.append_assoc]
    exact .char first (ih further)

/-- A listing whose only coordinate has a colour in its name, a link in front of its kind and a
query in front of its version. -/
def coloredListing : Bytes :=
  Bytes.ofString "org.liqui" ++ ([0x1B, 0x5B, 0x31, 0x3B, 0x33, 0x31, 0x6D] ++
    (Bytes.ofString "base:liquibase-core:" ++ ([0x1B, 0x5D, 0x38, 0x3B, 0x3B, 0xC3, 0x1B, 0x5C] ++
      (Bytes.ofString "jar:" ++ ([0x1B, 0x5B, 0x3F, 0x36, 0x20, 0x6E] ++
        Bytes.ofString "4.1\n")))))

/-- A machine on which every program writes this listing, its last bytes to the second stream,
and fails. -/
def coloringMachine : Machine Unit where
  searchPath := [Path.ofString "/"]
  start _ view memory := .ok ⟨.exited 1,
    [(.out, coloredListing.take 20), (.err, coloredListing.drop 20)], view.disk, memory⟩

theorem mvn_isName : isName (Bytes.ofString "mvn") = true := by
  decide

def coloringDisk : Disk where
  top := .cons ⟨Bytes.ofString "mvn", mvn_isName⟩ (.file 0) .nil
  files := #[⟨.program "true", programMode, 0⟩]
  clock := 0
  tidy := rfl

theorem listing_colored :
    Colored "org.liquibase:liquibase-core:jar:4.1\n".toList coloredListing := by
  have color : Complete [0x1B, 0x5B, 0x31, 0x3B, 0x33, 0x31, 0x6D] :=
    show Complete ([0x1B, 0x5B] ++ ([0x31, 0x3B, 0x33, 0x31] ++ ([] ++ [0x6D]))) from
      .control (by simp) (by simp) (by simp) (by decide)
  have link : Complete [0x1B, 0x5D, 0x38, 0x3B, 0x3B, 0xC3, 0x1B, 0x5C] :=
    show Complete ([0x1B, 0x5D] ++ ([0x38, 0x3B, 0x3B, 0xC3] ++ [0x1B, 0x5C])) from
      .command (by simp) (.inr rfl)
  have query : Complete [0x1B, 0x5B, 0x3F, 0x36, 0x20, 0x6E] :=
    show Complete ([0x1B, 0x5B] ++ ([0x3F, 0x36] ++ ([0x20] ++ [0x6E]))) from
      .control (by simp) (by simp) (by simp) (by decide)
  have version : Colored "4.1\n".toList (Bytes.ofString "4.1\n") := by
    have whole := Colored.text (show ∀ c ∈ "4.1\n".toList, Printable c by simp [Printable]) .nothing
    rwa [List.append_nil, List.append_nil] at whole
  have spelled : "org.liquibase:liquibase-core:jar:4.1\n".toList = "org.liqui".toList ++
      ("base:liquibase-core:".toList ++ ("jar:".toList ++ "4.1\n".toList)) := by
    decide
  rw [spelled]
  exact .text (by simp [Printable]) (.sequence color (.text (by simp [Printable]) (.sequence link
    (.text (by simp [Printable]) (.sequence query version)))))

/-- A child that fails with this listing on both of its streams names the version all the same. -/
theorem colored_listing_read :
    Colored "org.liquibase:liquibase-core:jar:4.1\n".toList coloredListing ∧
      Version.inListing? (captured coloredListing) = some "4.1" ∧
      (dependencies coloringMachine (Path.ofString "/") ⟨coloringDisk, []⟩ ()).answer =
        .ok "org.liquibase:liquibase-core:jar:4.1\n" := by
  let finished : Finished Unit := ⟨.exited 1,
    [(.out, coloredListing.take 20), (.err, coloredListing.drop 20)], coloringDisk, ()⟩
  have wrote : Command.written finished = coloredListing := by decide +kernel
  have launched : ((mvnList (Path.ofString "/")).launch true coloringMachine
      ⟨coloringDisk, []⟩ ()).result = .ok finished := rfl
  obtain ⟨-, version, child⟩ := colors_leave_no_trace (σ := Unit) listing_colored
  refine ⟨listing_colored, version.trans (by decide), ?_⟩
  exact (child coloringMachine ⟨coloringDisk, []⟩ () finished wrote).2 _ launched

/-- What a store tells of a download that failed is the captured text of what was written, in
the last of its messages; it tells nothing of the kind otherwise. -/
theorem ensure_tells (machine : Machine σ) (store : JarStore) (version : String) (world : World σ) :
    let jar := store.jar version
    let (outcome, after) := (store.ensure (toolchain machine) version).perform world
    ∃ events, after.events = world.events ++ events ∧
      (outcome = .error (.download jar.url) ∨ (∃ output, .said (.downloadOutput output) ∈ events) →
        ∃ earlier finished, (∀ output, .said (.downloadOutput output) ∉ earlier) ∧
          ((curlDownload jar.url jar.path).launch true machine world.view world.memory).result =
            .ok finished ∧
          events = earlier ++ [.said (.downloadOutput (captured (Command.written finished)))]) := by
  intro jar
  have ensured := ensure_ensured (toolchain machine) store version world
  have answered : (replyIn (toolchain machine) jar world).answer = _ :=
    download_answer machine jar.url jar.path world.view world.memory
  have silent {jar : Jar} (asides : List Aside) (output : String) :
      .said (.downloadOutput output) ∉ asking jar asides := by simp [asking]
  rcases performed : (store.ensure (toolchain machine) version).perform world with ⟨outcome, after⟩
  rw [performed] at ensured
  cases ensured with
  | present there => exact ⟨_, rfl, by simp⟩
  | fetched missing answer => exact ⟨_, List.append_assoc .., by simp [silent]⟩
  | unfetched missing answer =>
    rw [answered] at answer
    split at answer
    next => cases answer
    next finished launched =>
      split at answer
      next => cases answer
      next =>
        cases answer
        exact ⟨_, List.append_assoc .., fun _ => ⟨_, finished, silent _, launched, rfl⟩⟩
  | refused missing answer =>
    rw [answered] at answer
    split at answer
    next =>
      cases answer
      exact ⟨_, rfl, by simp [silent]⟩
    next => cases answer

/-- Whatever bytes a program writes, what is captured of them can be printed. They have become
well-formed, so that decoding them changes nothing, and a program that writes what was captured
is captured as that. What a store prints of a download that failed is captured, so it can be
printed whatever the program that was to fetch the jar has written. -/
theorem captured_drives_nothing :
    (∀ bytes : Bytes,
      (∀ c ∈ (captured bytes).toList, Printable c) ∧
      (Utf8.decode? (Utf8.encode (stripped bytes)) = some (stripped bytes) ∧
        Bytes.ofString (captured bytes) = Utf8.encode (stripped bytes)) ∧
      ∀ (command : Command) (machine : Machine σ) (view : View) (memory : σ) (finished : Finished σ),
        (command.launch true machine view memory).result = .ok finished →
        Command.written finished = bytes ∨
          Command.written finished = Bytes.ofString (captured bytes) →
        (command.capture machine view memory).result = .ok ⟨finished.status, captured bytes⟩) ∧
    ∀ (machine : Machine σ) (store : JarStore) (version : String) (world : World σ) (colored : Bool),
      let jar := store.jar version
      let (outcome, after) := (store.ensure (toolchain machine) version).perform world
      ∃ events, after.events = world.events ++ events ∧
        (outcome = .error (.download jar.url) → ∃ finished,
          ((curlDownload jar.url jar.path).launch true machine world.view world.memory).result =
            .ok finished ∧
          events.getLast? = some (.said (.downloadOutput (captured (Command.written finished))))) ∧
        ∀ output, .said (.downloadOutput output) ∈ events →
          ∀ c ∈ ((Message.downloadOutput output).render colored).toList, Printable c := by
  refine ⟨fun bytes => ⟨captured_printable bytes, ⟨?_, ?_⟩, ?_⟩, ?_⟩
  · exact decode?_encode _
  · rw [Bytes.ofString, captured_toList]
  · intro command machine view memory finished launched wrote
    rw [capture_result, launched]
    rcases wrote with wrote | wrote
    · rw [← wrote]
      rfl
    · rw [← captured_again bytes, ← wrote]
      rfl
  · intro machine store version world colored
    obtain ⟨events, after, told⟩ := ensure_tells machine store version world
    refine ⟨events, after, ?_, ?_⟩
    · intro failed
      obtain ⟨earlier, finished, -, launched, rfl⟩ := told (.inl failed)
      exact ⟨finished, launched, by simp⟩
    · intro output said c member
      obtain ⟨earlier, finished, silent, -, rfl⟩ := told (.inr ⟨output, said⟩)
      have last : output = captured (Command.written finished) := by
        simpa [silent] using said
      subst last
      rcases List.mem_append.mp (String.toList_append ▸ member) with text | ending
      · exact captured_printable _ c text
      · exact .inl (List.mem_singleton.mp ending)

/-- A line feed comes through an unfinished sequence; the rest of it, a control beyond ASCII
and a title that never ends do not, and a character broken off by an escape is shown as such. -/
example : captured [0x61, 0x1B, 0x5B, 0x33, 0x0A, 0x18, 0x9B, 0xE2, 0x82, 0x1B, 0x5D, 0x62] =
    "a\n\uFFFD" := by
  decide +kernel

end ChangelogSql.CapturedText
