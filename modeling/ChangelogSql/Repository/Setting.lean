import ChangelogSql.Repository.Session

/-!
Settings: names with values, in files that people may edit. A name consists of a
section, perhaps a part of it, and a key. Of the values that a name is given, the
last one counts.
-/

namespace ChangelogSql.Repository

open Text (ascii)
open Files

/-- A name with a value, or a name alone. -/
structure Setting where
  name : Bytes
  value? : Option Bytes

namespace Setting

/-- What a row of bytes says: quotes and backslashes are resolved, and a comment or the blanks at the
end are left out. `held` are blanks that count only where something comes behind them. -/
def unquoted : Bool → Bytes → Bytes → Bytes
  | _, _, [] => []
  | inQuotes, held, 0x5C :: b :: rest =>
    let plain := match Char.ofNat b.toNat with
      | 'n' => 0x0A
      | 't' => 0x09
      | 'b' => 0x08
      | _ => b
    held.reverse ++ plain :: unquoted inQuotes [] rest
  | inQuotes, held, b :: rest =>
    if b = 0x22 then held.reverse ++ unquoted (!inQuotes) [] rest
    else if inQuotes then held.reverse ++ b :: unquoted inQuotes [] rest
    else if b = ascii '#' || b = ascii ';' then []
    else if Text.Ascii.isSpace b then unquoted inQuotes (b :: held) rest
    else held.reverse ++ b :: unquoted inQuotes [] rest

/-- A value as it is written down. -/
def quoted (value : Bytes) : Bytes :=
  let isEdge (b? : Option UInt8) : Bool := b?.any Text.Ascii.isSpace
  let needsQuotes := isEdge value.head? || isEdge value.getLast?
    || value.any fun b => b = ascii '#' || b = ascii ';'
  let text := value.flatMap fun b =>
    if b = 0x0A then Bytes.ofString "\\n"
    else if b = 0x09 then Bytes.ofString "\\t"
    else if b = 0x22 || b = 0x5C then [0x5C, b]
    else [b]
  if needsQuotes then 0x22 :: text ++ [0x22] else text

/-- A line without the blanks around it. -/
def stripped (line : Bytes) : Bytes :=
  Work.trimmed (line.dropWhile Text.Ascii.isSpace)

/-- The section that a heading names, with a point behind it. -/
def section? (line : Bytes) : Option Bytes :=
  match stripped line with
  | 0x5B :: rest =>
    let inner := rest.takeWhile (· ≠ 0x5D)
    let name := inner.takeWhile fun b => !Text.Ascii.isSpace b && b ≠ 0x22
    let part := ((inner.drop name.length).dropWhile (· ≠ 0x22)).drop 1
    let part := (part.takeWhile (· ≠ 0x22)).filter (· ≠ 0x5C)
    let name := name.map Text.Ascii.lower
    some (if part = [] then name ++ [ascii '.'] else name ++ ascii '.' :: part ++ [ascii '.'])
  | _ => none

/-- The key of a line and what comes behind the sign after it. -/
def keyed? (line : Bytes) : Option (Bytes × Option Bytes) :=
  let line := line.dropWhile Text.Ascii.isSpace
  let key := line.takeWhile fun b => Text.Ascii.isNameByte b || b = ascii '-'
  match key with
  | [] => none
  | _ :: _ =>
    let rest := (line.drop key.length).dropWhile Text.Ascii.isSpace
    let value? :=
      match rest with
      | 0x3D :: rest => some (unquoted false [] (rest.dropWhile Text.Ascii.isSpace))
      | _ => none
    some (key.map Text.Ascii.lower, value?)

/-- Lines with the sections they are in. -/
def placed : Bytes → List Bytes → List (Bytes × Bytes)
  | _, [] => []
  | section', line :: rest =>
    let here := (section? line).getD section'
    (here, line) :: placed here rest

/-- The setting that a line makes in a section. -/
def ofLine? (here line : Bytes) : Option Setting :=
  if (section? line).isSome then none
  else (keyed? line).map fun (key, value?) => ⟨here ++ key, value?⟩

/-- The settings in a file. -/
def ofFile (content : Bytes) : List Setting :=
  (placed [] (Text.splitAt 0x0A content)).filterMap fun (here, line) => ofLine? here line

/-- A name cut into its section, with a point behind it, and its key. -/
def parts (name : Bytes) : Bytes × Bytes :=
  let key := (name.reverse.takeWhile (· ≠ ascii '.')).reverse
  (name.take (name.length - key.length), key)

/-- A name as it is compared: what people write in large or small letters is in small ones. -/
def normal (name : Bytes) : Bytes :=
  let (front, key) := parts name
  let first := front.takeWhile (· ≠ ascii '.')
  first.map Text.Ascii.lower ++ front.drop first.length ++ key.map Text.Ascii.lower

/-- The heading of a section. -/
def heading (front : Bytes) : Bytes :=
  let front := front.dropLast
  let first := front.takeWhile (· ≠ ascii '.')
  match front.drop first.length with
  | [] => 0x5B :: first ++ [0x5D]
  | _ :: part => 0x5B :: first ++ Bytes.ofString " \"" ++ part ++ Bytes.ofString "\"]"

/-- The lines of a file, without what is behind the last line end. -/
def linesOf (content : Bytes) : List Bytes :=
  let lines := Text.splitAt 0x0A content
  if lines.getLast? = some [] then lines.dropLast else lines

/-- The place of the last line, with the section it is in, of which something holds. -/
def lastLine? (lines : List Bytes) (holds : Bytes × Bytes → Bool) : Option Nat :=
  (((placed [] lines).zipIdx.filter fun entry => holds entry.1).getLast?).map Prod.snd

/-- A line that gives a key a value. -/
def line (key value : Bytes) : Bytes :=
  0x09 :: key ++ Bytes.ofString " = " ++ quoted value

/-- A file in which a name has one more value. -/
def append (content name value : Bytes) : Bytes :=
  let (front, key) := parts name
  let lines := linesOf content
  let lines :=
    match lastLine? lines fun (here, _) => here = normal front with
    | some index => lines.take (index + 1) ++ line key value :: lines.drop (index + 1)
    | none => lines ++ [heading front, line key value]
  lines.flatMap (· ++ [0x0A])

/-- A file in which a name has a value; it takes the place of the value that counted, or comes
behind the lines of its section. -/
def set (content name value : Bytes) : Bytes :=
  let lines := linesOf content
  let same? := lastLine? lines fun (here, line) =>
    (ofLine? here line).any fun setting => setting.name = normal name
  match same? with
  | some index => (lines.set index (line (parts name).2 value)).flatMap (· ++ [0x0A])
  | none => append content name value

/-- A file in which a name has no value. A section with nothing left in it goes, too. -/
def unset (content name : Bytes) : Bytes :=
  let left := (placed [] (linesOf content)).filter fun (here, line) =>
    !(ofLine? here line).any fun setting => setting.name = normal name
  let here := normal (parts name).1
  let own := left.filter fun entry => entry.1 = here
  let left := if own.length ≤ 1 then left.filter fun entry => entry.1 ≠ here else left
  left.flatMap fun entry => entry.2 ++ [0x0A]

/-- A name that can have a value: sections and keys consist of letters, digits and dashes. -/
def isName (name : Bytes) : Bool :=
  let (front, key) := parts name
  let isPlain (b : UInt8) : Bool :=
    Text.Ascii.isLetter b || Text.Ascii.isDigit b || b = ascii '-'
  1 < front.length && key.head?.any Text.Ascii.isLetter && key.all isPlain
    && (front.takeWhile (· ≠ ascii '.')).all isPlain

/-- What a value says where only yes or no can be said. -/
def truth? (value? : Option Bytes) : Option Bool :=
  match value? with
  | none => some true
  | some value =>
    match Bytes.shown (value.map Text.Ascii.lower) with
    | "true" | "yes" | "on" => some true
    | "false" | "no" | "off" | "" => some false
    | _ => (Text.Ascii.integer? value).map (· ≠ 0)

end Setting

namespace Work

/-- The file with settings for everything a person does. -/
def generalFile? : Work (Option Path) := do
  match ← setting? "GIT_CONFIG_GLOBAL" with
  | some path => return some ⟨path⟩
  | none =>
    match ← setting? "HOME" with
    | some home => return some (Path.join ⟨home⟩ (Path.ofString ".gitconfig"))
    | none => return none

/-- The settings for everything a person does. -/
def generalSettings : Work (List Setting) := do
  let view ← view
  match ← generalFile? with
  | some path => return Setting.ofFile ((view.read path).toOption.getD [])
  | none => return []

/-- The settings of the repository. -/
def ownSettings : Work (List Setting) := do
  return Setting.ofFile ((← own? (Bytes.ofString "config")).getD [])

/-- The settings for this command only. -/
def overridingSettings : Work (List Setting) := do
  return (← get).overrides.map fun (name, value) => ⟨Setting.normal name, some value⟩

/-- All settings, those that count more behind the others. -/
def settings : Work (List Setting) := do
  return (← generalSettings) ++ (← ownSettings) ++ (← overridingSettings)

/-- The value of a setting. -/
def valueOf? (name : String) : Work (Option Bytes) := do
  let found := (← settings).filter fun setting => setting.name = Bytes.ofString name
  return (found.getLast?).bind Setting.value?

/-- A setting says yes; where it is not there, so does `otherwise`. -/
def isSet (name : String) (otherwise : Bool) : Work Bool := do
  let found := (← settings).filter fun setting => setting.name = Bytes.ofString name
  match found.getLast? with
  | some setting => return (Setting.truth? setting.value?).getD otherwise
  | none => return otherwise

end Work

end ChangelogSql.Repository
