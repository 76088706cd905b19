import ChangelogSql.Repository.Arguments
import ChangelogSql.Utility.Matching

/-!
Reading and changing settings.
-/

namespace ChangelogSql.Repository

open Text (ascii)
open Files
open Utility (Form Given toggle setting)

namespace Work

def preferenceForms : List Form :=
  [toggle "global" ["global"], toggle "local" ["local"], toggle "system" ["system"],
    toggle "worktree" ["worktree"], setting "f" ["file"], toggle "get" ["get"],
    toggle "every" ["get-all"], toggle "matching" ["get-regexp"], toggle "add" ["add"],
    toggle "replace" ["replace-all"], toggle "unset" ["unset"], toggle "clear" ["unset-all"],
    toggle "l" ["list"], toggle "bool" ["bool"], toggle "int" ["int"], toggle "path" ["path"],
    setting "type" ["type"], toggle "names" ["name-only"], toggle "z" ["null"],
    setting "default" ["default"], toggle "remove" ["remove-section"],
    toggle "rename" ["rename-section"], toggle "edit" ["e", "edit"],
    toggle "origin" ["show-origin"], toggle "scope" ["show-scope"],
    toggle "includes" ["includes", "no-includes"], toggle "fixed" ["fixed-value"]]

/-- Which settings are read or changed. -/
inductive Shelf where
  | every
  | general
  | own
  | file (path : Path)

/-- The settings that options ask for. -/
def shelfOf (given : Given) : Work Shelf := do
  match given.value? "f" with
  | some path => return .file ⟨path⟩
  | none =>
    if given.has "global" then return .general
    else if given.has "local" || given.has "worktree" then return .own
    else if given.has "system" then return .file (Path.ofString "/etc/gitconfig")
    else return .every

/-- The settings on a shelf. -/
def settingsOf (shelf : Shelf) : Work (List Setting) := do
  match shelf with
  | .every => settings
  | .general => generalSettings
  | .own => ownSettings
  | .file path =>
    match (← view).read path with
    | .ok content => return Setting.ofFile content
    | .error fault =>
      die (Bytes.ofString "unable to read config file '" ++ path.bytes ++ Bytes.ofString "': "
        ++ Bytes.ofString fault.reason)

/-- The text of the file in which settings of a shelf are changed. -/
def shelfContent (shelf : Shelf) : Work Bytes := do
  let view ← view
  match shelf with
  | .every | .own => return (← own? (Bytes.ofString "config")).getD []
  | .general =>
    match ← generalFile? with
    | some path => return (view.read path).toOption.getD []
    | none => die (Bytes.ofString "$HOME not set")
  | .file path => return (view.read path).toOption.getD []

/-- Writes the file in which settings of a shelf are changed. -/
def setShelf (shelf : Shelf) (content : Bytes) : Work Unit := do
  let file? ←
    match shelf with
    | .every | .own => pure none
    | .general => generalFile?
    | .file path => pure (some path)
  match file? with
  | none => setOwn (Bytes.ofString "config") content
  | some path =>
    match ← change fun view => view.write path content with
    | .ok () => pure ()
    | .error fault =>
      fail 255 (Bytes.ofString "could not lock config file " ++ path.bytes ++ Bytes.ofString ": "
        ++ Bytes.ofString fault.reason)

/-- The kind of value that is asked for. -/
def valueKind (given : Given) : String :=
  if given.has "bool" then "bool"
  else if given.has "int" then "int"
  else if given.has "path" then "path"
  else ((given.value? "type").map Bytes.shown).getD ""

/-- A number with a letter for thousands of it. -/
def scaledNumber? (text : Bytes) : Option Int :=
  let letters : List (Char × Int) := [('k', 1024), ('m', 1048576), ('g', 1073741824)]
  match text.getLast? with
  | none => none
  | some last =>
    match letters.find? fun entry => Text.Ascii.lower last = ascii entry.1 with
    | some (_, scale) => (Text.Ascii.integer? text.dropLast).map (· * scale)
    | none => Text.Ascii.integer? text

/-- A value as it is told. -/
def shownValue (given : Given) (name : Bytes) (value? : Option Bytes) : Work Bytes := do
  let refused {α : Type} (kind : String) : Work α :=
    die (Bytes.ofString ("bad " ++ kind ++ " config value '") ++ value?.getD []
      ++ Bytes.ofString "' for '" ++ name ++ [ascii '\''])
  match valueKind given with
  | "bool" =>
    match Setting.truth? value? with
    | some value => return Bytes.ofString (if value then "true" else "false")
    | none => refused "boolean"
  | "int" =>
    match scaledNumber? (value?.getD []) with
    | some number => return Text.Ascii.ofInt number
    | none => refused "numeric"
  | "path" =>
    match value?.getD [] with
    | 0x7E :: rest => return ((← setting? "HOME").getD []) ++ rest
    | value => return value
  | _ => return value?.getD []

/-- Refuses a name that no setting can have. -/
def checkName (name : Bytes) (code : UInt8) : Work Unit := do
  if !name.contains (ascii '.') then
    fail code (Bytes.ofString "key does not contain a section: " ++ name)
  else if !Setting.isName name then
    fail 1 (Bytes.ofString "invalid key: " ++ name)

/-- Tells the values of a setting. -/
def tellValues (given : Given) (shelf : Shelf) (name : Bytes) (isEvery : Bool) : Work Unit := do
  checkName name 1
  let found := (← settingsOf shelf).filter fun setting => setting.name = Setting.normal name
  let ending : UInt8 := if given.has "z" then 0 else 0x0A
  let found := if isEvery then found else (found.getLast?).toList
  match found, given.value? "default" with
  | [], some value => put ((← shownValue given name (some value)) ++ [ending])
  | [], none => stop 1
  | found, _ =>
    for setting in found do
      put ((← shownValue given name setting.value?) ++ [ending])

/-- Tells all settings of a shelf. -/
def tellSettings (given : Given) (shelf : Shelf) (wanted : Setting → Bool) (sign : UInt8) :
    Work Unit := do
  let found := (← settingsOf shelf).filter wanted
  for setting in found do
    let value ← shownValue given setting.name setting.value?
    let isBare := given.has "names" || (setting.value?.isNone && valueKind given = "")
    let sign := if given.has "z" then 0x0A else sign
    put (setting.name ++ (if isBare then [] else sign :: value)
      ++ [if given.has "z" then 0 else 0x0A])

/-- Takes the values of a setting away. -/
def unsetValues (shelf : Shelf) (name : Bytes) (isEvery : Bool) : Work Unit := do
  checkName name 1
  let content ← shelfContent shelf
  let found := (Setting.ofFile content).filter fun setting => setting.name = Setting.normal name
  if found.isEmpty then stop 5
  else if 1 < found.length && !isEvery then
    note (Bytes.ofString "warning: " ++ name ++ Bytes.ofString " has multiple values\n")
    stop 5
  else setShelf shelf (Setting.unset content name)

/-- Gives a setting a value. -/
def setValue (given : Given) (shelf : Shelf) (name value : Bytes) : Work Unit := do
  checkName name 2
  let value ←
    match valueKind given with
    | "path" | "" => pure value
    | _ => shownValue given name (some value)
  let content ← shelfContent shelf
  let found := (Setting.ofFile content).filter fun setting => setting.name = Setting.normal name
  if 1 < found.length && !given.has "replace" && !given.has "add" then
    note (Bytes.ofString "warning: " ++ name ++ Bytes.ofString (" has multiple values\n"
      ++ "error: cannot overwrite multiple values with a single value\n"
      ++ "       Use a regexp, --add or --replace-all to change ") ++ name
      ++ Bytes.ofString ".\n")
    stop 5
  else
    let content := if given.has "replace" then Setting.unset content name else content
    setShelf shelf
      (if given.has "add" then Setting.append content name value
        else Setting.set content name value)

/-- Reads or changes settings. -/
def configure (arguments : List Bytes) : Work Unit := do
  let given ← options preferenceForms arguments
  let shelf ← shelfOf given
  if given.has "l" then tellSettings given shelf (fun _ => true) (ascii '=')
  else
    match given.last? ["get", "every", "matching", "add", "replace", "unset", "clear", "remove"],
      given.operands with
    | some "matching", [text] =>
      let program? := Utility.Expression.compile Utility.Expression.extended false false text
      let wanted (setting : Setting) : Bool :=
        match program? with
        | .ok program => program.occursIn setting.name
        | .error _ => false
      if !(← settingsOf shelf).any wanted then stop 1
      tellSettings given shelf wanted 0x20
    | some "every", name :: _ => tellValues given shelf name true
    | some "unset", [name] => unsetValues shelf name false
    | some "clear", [name] => unsetValues shelf name true
    | some "remove", [front] =>
      let content ← shelfContent shelf
      let placed := Setting.placed [] (Setting.linesOf content)
      let own := Setting.normal (front ++ [ascii '.'])
      if !placed.any fun entry => entry.1 = own then
        die (Bytes.ofString "no such section: " ++ front)
      else
        let left := placed.filter fun entry => entry.1 ≠ own
        setShelf shelf (left.flatMap fun entry => entry.2 ++ [0x0A])
    | some "get", name :: _ | none, [name] => tellValues given shelf name false
    | _, [name, value] => setValue given shelf name value
    | _, _ =>
      fail 2 (Bytes.ofString "wrong number of arguments, should be from 1 to 2")

end Work

end ChangelogSql.Repository
