import ChangelogSql.CommandLine.Similarity
import ChangelogSql.Path.Basic
import ChangelogSql.Text.Ascii

/-!
The arguments a run is started with. There are two options, each with a path,
and two flags that ask for information; a flag takes effect where it stands,
before anything after it is read. An option's value may follow as an argument
of its own, so an option stays pending until the next one or the end shows
whether it has got its value.
-/

namespace ChangelogSql.CommandLine

open Text (ascii)

/-- An option that has a value. -/
inductive Setting where
  | root
  | artifactDirectory
  deriving DecidableEq

/-- A flag that asks for information. -/
inductive Inquiry where
  | help
  | version
  deriving DecidableEq

/-- A name that is known. -/
inductive Known where
  | setting (setting : Setting)
  | inquiry (inquiry : Inquiry)
  deriving DecidableEq

namespace Known

/-- The names. -/
def all : List Known :=
  [.setting .root, .setting .artifactDirectory, .inquiry .help, .inquiry .version]

/-- The name as it is written after two dashes. -/
def name : Known → String
  | .setting .root => "root"
  | .setting .artifactDirectory => "artifact-dir"
  | .inquiry .help => "help"
  | .inquiry .version => "version"

/-- The flag that a single letter stands for. -/
def ofLetter? (letter : Char) : Option Inquiry :=
  match letter with
  | 'h' => some .help
  | 'V' => some .version
  | _ => none

def ofName? (name : String) : Option Known :=
  all.find? fun known => known.name = name

/-- A name that is not shown to people. -/
def isHidden : Known → Bool
  | .setting .artifactDirectory => true
  | _ => false

/-- The known name most similar to a word. -/
def similar? (word : String) : Option Known :=
  (Similarity.best? word (all.map name)).bind ofName?

end Known

/-- Why arguments are refused. `used` are the names that have been used, for the usage that is shown
with the refusal; for a flag that was given a value only `anySettled` tells whether a setting has got
its value. -/
inductive Refusal where
  | unexpected (argument : String) (similar? : Option Known) (used : List Known)
  | missingValue (setting : Setting)
  | repeated (setting : Setting)
  | unexpectedValue (value : String) (inquiry : Inquiry) (anySettled : Bool)
  deriving DecidableEq

/-- The paths that were asked for. -/
structure Arguments where
  root? : Option Path
  artifactDirectory? : Option Path
  deriving DecidableEq

/-- What a list of arguments comes to. -/
inductive Reading where
  | run (arguments : Arguments)
  | inform (inquiry : Inquiry)
  | refused (refusal : Refusal)
  deriving DecidableEq

/-- Reading in progress: the settings that have got their values, and one that may not have got its
value yet. -/
structure Progress where
  settled : List (Setting × Path)
  pending? : Option (Setting × Option Bytes)

namespace Progress

/-- Nothing has been read. -/
def start : Progress :=
  ⟨[], none⟩

/-- The names used so far that may be shown, pending ones left out. -/
def used (progress : Progress) : List Known :=
  (progress.settled.map fun entry => Known.setting entry.1).filter fun known => !known.isHidden

/-- Gives a setting its value. A repeated setting counts as not given, and an empty value as given
but missing. -/
def settle (progress : Progress) (setting : Setting) (value : Bytes) :
    Progress × Option Refusal :=
  if (progress.settled.map (·.1)).contains setting then
    ({ progress with settled := progress.settled.filter fun entry => entry.1 ≠ setting },
      some (.repeated setting))
  else
    ({ progress with settled := progress.settled ++ [(setting, ⟨value⟩)] },
      if value = [] then some (.missingValue setting) else none)

/-- Settles what is pending. -/
def resolve (progress : Progress) : Progress × Option Refusal :=
  match progress.pending? with
  | none => (progress, none)
  | some (setting, none) => ({ progress with pending? := none }, some (.missingValue setting))
  | some (setting, some value) => settle { progress with pending? := none } setting value

/-- Settles what is pending and goes on if that went well. -/
def resolving (progress : Progress) (next : Progress → Progress ⊕ Reading) : Progress ⊕ Reading :=
  match progress.resolve with
  | (_, some refusal) => .inr (.refused refusal)
  | (progress, none) => next progress

/-- Refuses an argument nobody knows. What is pending is settled first, and its own faults are
passed over. -/
def refuse (progress : Progress) (argument : String) (similar? : Option Known) (withUsed : Bool) :
    Progress ⊕ Reading :=
  let used := progress.resolve.1.used
  let suggested := (similar?.toList.filter fun known => !known.isHidden && !used.contains known)
  .inr (.refused (.unexpected argument similar? (if withUsed then used ++ suggested else [])))

/-- Takes an argument with two dashes; `body` is what follows them. -/
def takeLong (progress : Progress) (body : Bytes) : Progress ⊕ Reading :=
  let name := Bytes.shown (body.takeWhile (· ≠ ascii '='))
  let value? :=
    match body.dropWhile (· ≠ ascii '=') with
    | [] => none
    | _ :: value => some value
  match Known.ofName? name, value? with
  | some (.setting setting), none =>
    progress.resolving fun progress => .inl { progress with pending? := some (setting, none) }
  | some (.setting setting), some value =>
    progress.resolving fun progress =>
      match progress.settle setting value with
      | (_, some refusal) => .inr (.refused refusal)
      | (progress, none) => .inl progress
  | some (.inquiry inquiry), none => progress.resolving fun _ => .inr (.inform inquiry)
  | some (.inquiry inquiry), some value =>
    .inr (.refused (.unexpectedValue (Bytes.shown value) inquiry !progress.settled.isEmpty))
  | none, _ => progress.refuse ("--" ++ name) (Known.similar? name) true

/-- Takes an argument with one dash; its first letter decides, since every known letter takes effect
at once. Bytes that are no letter are refused with all that follows them. -/
def takeShort (progress : Progress) (body : Bytes) : Progress ⊕ Reading :=
  match Text.Utf8.pieces body with
  | .scalar letter :: _ =>
    match Known.ofLetter? letter with
    | some inquiry => progress.resolving fun _ => .inr (.inform inquiry)
    | none => progress.refuse ("-" ++ letter.toString) none false
  | _ => progress.refuse ("-" ++ body.shown) none false

/-- Takes an argument that is no option: the value of the pending setting, where it has none. -/
def takeValue (progress : Progress) (argument : Bytes) : Progress ⊕ Reading :=
  match progress.pending? with
  | some (setting, none) => .inl { progress with pending? := some (setting, some argument) }
  | _ => progress.refuse argument.shown none false

/-- Takes one argument before the separator. -/
def take (progress : Progress) (argument : Bytes) : Progress ⊕ Reading :=
  match argument with
  | first :: second :: rest =>
    if first = ascii '-' then
      if second = ascii '-' then progress.takeLong rest else progress.takeShort (second :: rest)
    else progress.takeValue argument
  | _ => progress.takeValue argument

/-- The arguments at the end of the reading. -/
def finish (progress : Progress) : Reading :=
  match progress.resolve with
  | (_, some refusal) => .refused refusal
  | (progress, none) =>
    .run ⟨progress.settled.lookup .root, progress.settled.lookup .artifactDirectory⟩

/-- Reads arguments one by one. After `--` no argument is expected. -/
def readFrom : Progress → List Bytes → Reading
  | progress, [] => progress.finish
  | progress, argument :: rest =>
    if argument = Bytes.ofString "--" then
      match rest with
      | [] => progress.finish
      | next :: _ => .refused (.unexpected next.shown none [])
    else
      match progress.take argument with
      | .inr reading => reading
      | .inl progress => readFrom progress rest

end Progress

/-- What a list of arguments comes to. -/
def Reading.ofArguments (arguments : List Bytes) : Reading :=
  Progress.start.readFrom arguments

end ChangelogSql.CommandLine
