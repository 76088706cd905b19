import ChangelogSql.Shell.Format
import ChangelogSql.Utility.Permission
import ChangelogSql.Utility.Transfer

/-!
The programs that tell what stands where: names in directories, facts about
files, and what paths lead to.
-/

namespace ChangelogSql.Utility.Listing

open Text (ascii)
open Files Kernel
open Tool
open Entry (within depthLimit)

/-- How many places something has: directories are also their own `.` and the `..` of others. -/
def linksOf (view : View) (path : Bytes) (facts : Facts) : Nat :=
  match facts.identity, view.linkStat ⟨path⟩ with
  | .file number, _ => view.disk.places number
  | _, .ok (.directory _ entries) =>
    2 + (entries.toList.filter fun entry =>
      match entry.2 with
      | .directory .. => true
      | _ => false).length
  | _, _ => 1

/-- The letter of a kind in front of permissions. -/
def kindLetter : Kind → UInt8
  | .file => ascii '-'
  | .directory => ascii 'd'
  | .link => ascii 'l'
  | .device => ascii 'c'
  | .queue => ascii 'p'

/-- Permissions with the kind in front. -/
def modeText (facts : Facts) : Bytes :=
  kindLetter facts.kind :: Permission.letters facts.mode

/-- How many blocks of 512 bytes something takes. -/
def blocksOf (facts : Facts) : Nat :=
  match facts.kind with
  | .file => (facts.size + 4095) / 4096 * 8
  | .directory => 8
  | _ => 0

/-- What a list shows of the things in it. -/
structure Manner where
  isLong : Bool
  showsOwner : Bool
  showsGroup : Bool
  asNumbers : Bool
  forPeople : Bool
  showsNode : Bool
  showsBlocks : Bool
  showsHidden : Bool
  showsSelf : Bool
  asThemselves : Bool
  isDeep : Bool
  follows : Bool
  isReversed : Bool
  sortsBy : String
  directoriesFirst : Bool
  inQuotes : Bool
  escapes : Bool
  hidesOdd : Bool
  asRow : Bool
  marks : Option String

/-- A thing in a list. -/
structure Item where
  name : Bytes
  path : Bytes
  facts : Facts

/-- A name between double quotes. -/
def inDoubleQuotes (name : Bytes) : Bytes :=
  let shown (b : UInt8) : Bytes :=
    if b = 0x22 || b = 0x5C then [0x5C, b]
    else if Quotation.isVisible b then [b]
    else Quotation.escape b
  0x22 :: name.flatMap shown ++ [0x22]

/-- A name as it is shown. -/
def shownName (manner : Manner) (name : Bytes) : Bytes :=
  if manner.inQuotes then inDoubleQuotes name
  else if manner.escapes then
    name.flatMap fun b =>
      if b = 0x20 || b = 0x5C then [0x5C, b]
      else if Quotation.isVisible b then [b]
      else Quotation.escape b
  else if manner.hidesOdd then name.map fun b => if Quotation.isVisible b then b else ascii '?'
  else name

/-- The mark behind a name. -/
def mark (manner : Manner) (facts : Facts) : Bytes :=
  match manner.marks with
  | none => []
  | some level =>
    match facts.kind with
    | .directory => [ascii '/']
    | .link => if level = "p" then [] else [ascii '@']
    | .queue => if level = "p" then [] else [ascii '|']
    | .file => if level = "F" && isRunnable facts.mode then [ascii '*'] else []
    | .device => []

/-- The time of a change in a list: with the time of day where it is not long ago, or else with the
year. -/
def timeText (now : Nat) (modified : Nat) : String :=
  let seconds := modified / 1000000000
  let moment := Moment.ofSeconds seconds
  let isRecent := seconds ≤ now / 1000000000 && now / 1000000000 < seconds + 15778476
  moment.inForm (if isRecent then "%b %e %H:%M" else "%b %e  %Y").toList

/-- A size for people. -/
def sizeForPeople (size : Nat) : String :=
  if size < 1024 then toString size
  else
    let (unit, divisor) :=
      if size < 1048576 then ("K", 1024)
      else if size < 1073741824 then ("M", 1048576) else ("G", 1073741824)
    if size < 10 * divisor then
      let tenths := (size * 10 + divisor - 1) / divisor
      if tenths < 100 then toString (tenths / 10) ++ "." ++ toString (tenths % 10) ++ unit
      else "10" ++ unit
    else toString ((size + divisor - 1) / divisor) ++ unit

/-- A text at the right of a column. -/
def right (width : Nat) (text : String) : Bytes :=
  Bytes.ofString ("".pushn ' ' (width - text.length) ++ text)

/-- The lines of a list. -/
def linesOf (manner : Manner) (view : View) (now : Nat) (items : List Item) : List Bytes :=
  let width (text : Item → String) : Nat := (items.map fun item => (text item).length).foldl max 0
  let links (item : Item) : String := toString (linksOf view item.path item.facts)
  let size (item : Item) : String :=
    if manner.forPeople then sizeForPeople item.facts.size else toString item.facts.size
  let node (item : Item) : String :=
    match item.facts.identity with
    | .file number => toString (number + 1000)
    | .place location => toString (500 + Numeral.total (location.map fun name => name.bytes.length))
    | .device _ => "5"
  let blocks (item : Item) : String :=
    let bytes := blocksOf item.facts * 512
    if manner.forPeople then sizeForPeople bytes else toString (bytes / 1024)
  let person := if manner.asNumbers then "0" else "root"
  items.map fun item =>
    let front :=
      (if manner.showsNode then right (width node) (node item) ++ [0x20] else [])
        ++ (if manner.showsBlocks then right (width blocks) (blocks item) ++ [0x20] else [])
    let name := shownName manner item.name
    if !manner.isLong then front ++ name ++ mark manner item.facts
    else
      let owner := (if manner.showsOwner then [person] else [])
        ++ (if manner.showsGroup then [person] else [])
      let arrow :=
        match item.facts.kind, Transfer.linkTarget? view item.path with
        | .link, some target => Bytes.ofString " -> " ++ shownName manner target.bytes
        | _, _ => mark manner item.facts
      front ++ modeText item.facts ++ [0x20] ++ right (width links) (links item) ++ [0x20]
        ++ Bytes.ofString (String.join (owner.map (· ++ " "))) ++ right (width size) (size item)
        ++ Bytes.ofString (" " ++ timeText now item.facts.modified ++ " ") ++ name ++ arrow

/-- Things in the order in which they are listed. -/
def sorted (manner : Manner) (items : List Item) : List Item :=
  let byName (item other : Item) : Bool := item.name ≤ other.name
  let ending (item : Item) : Bytes :=
    let back := item.name.reverse.takeWhile (· ≠ ascii '.')
    if back.length = item.name.length then [] else back.reverse
  let ordered :=
    if manner.sortsBy = "none" then items
    else
      let named := items.mergeSort byName
      if manner.sortsBy = "size" then
        named.mergeSort fun item other => other.facts.size ≤ item.facts.size
      else if manner.sortsBy = "time" then
        named.mergeSort fun item other => other.facts.modified ≤ item.facts.modified
      else if manner.sortsBy = "extension" then
        named.mergeSort fun item other => ending item ≤ ending other
      else named
  let ordered := if manner.isReversed then ordered.reverse else ordered
  if manner.directoriesFirst then
    let (first, rest) := ordered.partition fun item => item.facts.kind = .directory
    first ++ rest
  else ordered

/-- Puts out a list. -/
def putList (manner : Manner) (hasTotal : Bool) (items : List Item) : Tool Unit := do
  let now ← ask (Kernel.Request.look fun _ system => system.disk.clock)
  let items := sorted manner items
  if hasTotal && (manner.isLong || manner.showsBlocks) then
    let bytes := Numeral.total (items.map fun item => blocksOf item.facts * 512)
    putLine (Bytes.ofString ("total " ++ (if manner.forPeople then sizeForPeople bytes
      else toString (bytes / 1024))))
  let lines := linesOf manner (← view) now items
  if manner.asRow && !manner.isLong then
    unless lines.isEmpty do
      putLine (lines.foldl
        (fun row line => if row = [] then line else row ++ Bytes.ofString ", " ++ line) [])
  else
    for line in lines do
      putLine line

/-- Complains of what cannot be listed. -/
def refuse (isOperand : Bool) (words : String) (path : Bytes) (fault : Fault) : Tool Unit := do
  let before := (← get).code
  Entry.failure words path fault.reason
  setCode (if isOperand || before = 2 then 2 else 1)

/-- Lists a directory, and those in it if that is wanted. -/
def listDirectory (manner : Manner) : Nat → Bool → Bool → Bytes → Tool Unit
  | 0, _, _, _ => return ()
  | depth + 1, hasHeader, isFirst, path => do
    if hasHeader then
      unless isFirst do
        putLine []
      putLine (shownName manner path ++ [ascii ':'])
    let seen ← view
    let isShown (name : Bytes) : Bool := manner.showsHidden || name.head? ≠ some (ascii '.')
    let own : List Bytes := if manner.showsSelf then [[ascii '.'], [ascii '.', ascii '.']] else []
    let names := own ++ (Transfer.namesIn seen path).filter isShown
    let mut items : List Item := []
    for name in names do
      let inner := within path name
      match seen.facts manner.follows ⟨inner⟩ with
      | .ok facts => items := ⟨name, inner, facts⟩ :: items
      | .error fault =>
        refuse false "cannot access" inner fault
        match seen.facts false ⟨inner⟩ with
        | .ok facts => items := ⟨name, inner, facts⟩ :: items
        | .error _ => pure ()
    putList manner true items.reverse
    if manner.isDeep then
      for item in sorted manner items.reverse do
        if item.facts.kind = .directory && !own.contains item.name then
          listDirectory manner depth true false item.path

/-- The options of a list. -/
def listForms : List Form :=
  [toggle "a" ["all"], toggle "A" ["almost-all"], toggle "b" ["escape"], toggle "C",
    toggle "c", toggle "d" ["directory"], toggle "f", toggle "F", toggle "g",
    ⟨"classify", ["classify"], .perhaps⟩, toggle "G" ["no-group"], toggle "h" ["human-readable"],
    toggle "H", toggle "i" ["inode"], toggle "k" ["kibibytes"], toggle "l",
    toggle "L" ["dereference"], toggle "m", toggle "n" ["numeric-uid-gid"],
    toggle "N" ["literal"], toggle "o", toggle "p", toggle "q" ["hide-control-chars"],
    toggle "Q" ["quote-name"], toggle "r" ["reverse"], toggle "R" ["recursive"],
    toggle "s" ["size"], toggle "S", toggle "t", setting "sort" ["sort"], toggle "u",
    toggle "U", toggle "v", setting "w" ["width"], toggle "x", toggle "X", toggle "Z",
    toggle "1", ⟨"color", ["color"], .perhaps⟩, toggle "first" ["group-directories-first"],
    setting "style" ["time-style"], setting "format" ["format"],
    setting "indicator" ["indicator-style"], toggle "type" ["file-type"],
    setting "I" ["ignore"], setting "hide" ["hide"]]

/-- Lists files and what is in directories. -/
def list (arguments : List Bytes) : Tool Unit := do
  whenUnheard fun reason => (2, ["write error: " ++ reason])
  let given ← options listForms arguments 2
  let isLong := ["l", "g", "o", "n"].any given.has && given.last? ["1", "l", "m"] ≠ some "m"
  let manner : Manner :=
    { isLong, showsOwner := !given.has "g", showsGroup := !given.has "o" && !given.has "G"
      asNumbers := given.has "n", forPeople := given.has "h", showsNode := given.has "i"
      showsBlocks := given.has "s", showsHidden := given.has "a" || given.has "A" || given.has "f"
      showsSelf := (given.has "a" || given.has "f") && given.last? ["a", "A"] ≠ some "A"
      asThemselves := given.has "d", isDeep := given.has "R" && !given.has "d"
      follows := given.has "L", isReversed := given.has "r"
      sortsBy :=
        match given.last? ["U", "f", "S", "t", "X", "v", "sort"] with
        | some "U" | some "f" => "none"
        | some "S" => "size"
        | some "t" => "time"
        | some "X" => "extension"
        | some "sort" => ((given.value? "sort").map Bytes.shown).getD ""
        | _ => "name"
      directoriesFirst := given.has "first", inQuotes := given.has "Q", escapes := given.has "b"
      hidesOdd := given.has "q", asRow := given.last? ["1", "m"] = some "m"
      marks :=
        match given.last? ["F", "classify", "p", "type"] with
        | some "p" => some "p"
        | some "type" => some "t"
        | some _ => some "F"
        | none => none }
  let paths := if given.operands.isEmpty then [[ascii '.']] else given.operands
  let mut files : List Item := []
  let mut directories : List Item := []
  for path in paths do
    let seen ← view
    let follows := manner.follows
      || (!manner.isLong && !manner.asThemselves && !manner.marks.any (· = "F")) || given.has "H"
    let facts : Except Fault Facts :=
      match seen.facts follows ⟨path⟩ with
      | .ok facts => .ok facts
      | .error fault => if manner.follows then .error fault else seen.facts false ⟨path⟩
    match facts with
    | .error fault => refuse true "cannot access" path fault
    | .ok facts =>
      if facts.kind = .directory && !manner.asThemselves then
        directories := ⟨path, path, facts⟩ :: directories
      else files := ⟨path, path, facts⟩ :: files
  putList manner false files.reverse
  let hasHeader := 1 < paths.length || manner.isDeep
  let mut isFirst := files.isEmpty
  for item in sorted manner directories.reverse do
    listDirectory manner depthLimit hasHeader isFirst item.path
    isFirst := false

/-- The name of a kind. -/
def kindName (facts : Facts) : String :=
  match facts.kind with
  | .file => if facts.size = 0 then "regular empty file" else "regular file"
  | .directory => "directory"
  | .link => "symbolic link"
  | .device => "character special file"
  | .queue => "fifo"

/-- The bits of a kind in front of those of the permissions. -/
def kindBits : Kind → Nat
  | .file => 0o100000
  | .directory => 0o040000
  | .link => 0o120000
  | .device => 0o020000
  | .queue => 0o010000

/-- A fact that a letter stands for. -/
def factText (view : View) (path : Bytes) (facts : Facts) (letter : UInt8) : Bytes :=
  let number (n : Nat) : Bytes := Text.Ascii.ofNat n
  let base (base n : Nat) : Bytes := Numeral.Directive.digitsOf base n
  let seconds := facts.modified / 1000000000
  let moment := Moment.ofSeconds seconds
  let date := Bytes.ofString (moment.inForm "%Y-%m-%d %H:%M:%S.000000000 +0000".toList)
  match Char.ofNat letter.toNat with
  | 'a' => base 8 facts.mode
  | 'A' => modeText facts
  | 'b' => number (blocksOf facts)
  | 'B' => number 512
  | 'd' => number 64769
  | 'D' => Bytes.ofString "fd01"
  | 'f' => base 16 (kindBits facts.kind + facts.mode)
  | 'F' => Bytes.ofString (kindName facts)
  | 'g' | 'u' => number 0
  | 'G' | 'U' => Bytes.ofString "root"
  | 'h' => number (linksOf view path facts)
  | 'i' =>
    match facts.identity with
    | .file file => number (file + 1000)
    | _ => number (500 + path.length)
  | 'n' => path
  | 'N' =>
    match facts.kind, Transfer.linkTarget? view path with
    | .link, some target =>
      Quotation.quoted path ++ Bytes.ofString " -> " ++ Quotation.quoted target.bytes
    | _, _ => Quotation.quoted path
  | 'o' => number 4096
  | 's' => number facts.size
  | 't' | 'T' => number 0
  | 'w' | 'x' | 'y' | 'z' => date
  | 'W' | 'X' | 'Y' | 'Z' => number seconds
  | _ => [ascii '?']

/-- Facts in the form that a text lays down. `escapes` tells whether backslashes mean something. -/
def inForm (view : View) (path : Bytes) (facts : Facts) (escapes : Bool) : Nat → Bytes → Bytes
  | 0, _ => []
  | _, [] => []
  | fuel + 1, b :: rest =>
    if b = ascii '%' then
      let isFlag (b : UInt8) : Bool := (Bytes.ofString "-+ #0").contains b
      let flags := rest.takeWhile isFlag
      let digits := (rest.drop flags.length).takeWhile Text.Ascii.isDigit
      match rest.drop (flags.length + digits.length) with
      | [] => b :: rest
      | letter :: more =>
        if letter = ascii '%' then b :: inForm view path facts escapes fuel more
        else
          let text := factText view path facts letter
          let width := Text.Ascii.value 10 digits
          let missing := width - text.length
          let isLeft := flags.contains (ascii '-')
          let hasZeros := flags.contains (ascii '0') && text.all Text.Ascii.isDigit
          let text :=
            if isLeft then text ++ List.replicate missing 0x20
            else List.replicate missing (if hasZeros then ascii '0' else 0x20) ++ text
          text ++ inForm view path facts escapes fuel more
    else if escapes && b = 0x5C then
      match rest with
      | [] => [b]
      | next :: more =>
        if Text.Ascii.isOctal next then
          let digits := (rest.take 3).takeWhile Text.Ascii.isOctal
          UInt8.ofNat (Text.Ascii.value 8 digits)
            :: inForm view path facts escapes fuel (rest.drop digits.length)
        else
          (Shell.Format.simple? next).getD next :: inForm view path facts escapes fuel more
    else b :: inForm view path facts escapes fuel rest

/-- All that is told where no form is laid down. -/
def usualForm : String :=
  "  File: %N\n  Size: %-10s\tBlocks: %-10b IO Block: %-6o %F\n"
    ++ "Device: %Dh/%dd\tInode: %-10i  Links: %h\n"
    ++ "Access: (%04a/%10A)  Uid: (%5u/%8U)   Gid: (%5g/%8G)\n"
    ++ "Access: %x\nModify: %y\nChange: %z\n Birth: %w"

/-- Tells facts about files. -/
def tellFacts (arguments : List Bytes) : Tool Unit := do
  let given ← options [setting "c" ["format"], setting "printf" ["printf"],
    toggle "L" ["dereference"], toggle "f" ["file-system"], toggle "t" ["terse"]] arguments 1
  Entry.require given.operands "missing operand"
  for path in given.operands do
    let seen ← view
    match seen.facts (given.has "L") ⟨path⟩ with
    | .error fault => Entry.failure "cannot statx" path fault.reason
    | .ok facts =>
      match given.last? ["c", "printf"] with
      | some "printf" =>
        let form := (given.value? "printf").getD []
        put (inForm seen path facts true (form.length + 1) form)
      | some _ =>
        let form := (given.value? "c").getD []
        putLine (inForm seen path facts false (form.length + 1) form)
      | none =>
        let form := Bytes.ofString usualForm
        putLine (inForm seen path facts false (form.length + 1) form)

/-- How much of a path must exist where what it leads to is told. -/
inductive Extent where
  | all
  | allButLast
  | nothing
  deriving DecidableEq

/-- An absolute path with the segments of another one behind it, links followed where there are some;
what is missing is taken as it is written. -/
def extended (view : View) : Nat → List Bytes → List Bytes → List Bytes
  | 0, base, _ => base
  | _, base, [] => base
  | fuel + 1, base, segment :: rest =>
    if Path.silent segment then extended view fuel base rest
    else if segment = [ascii '.', ascii '.'] then extended view fuel base.dropLast rest
    else
      let here := base ++ [segment]
      match Transfer.linkTarget? view (separator :: Text.joinWith separator here) with
      | some target =>
        let base := if target.isAbsolute then [] else base
        extended view fuel base (Text.splitAt separator target.bytes ++ rest)
      | none => extended view fuel here rest

/-- The absolute path that a path denotes. -/
def resolved (view : View) (extent : Extent) (path : Bytes) : Except Fault Bytes := do
  match extent with
  | .all => return (← view.canonical ⟨path⟩).bytes
  | .allButLast =>
    let cut := (path.reverse.dropWhile (· = separator)).reverse
    let isTrailed := cut.length < path.length
    let path := if cut = [] then path else cut
    let place ← view.disk.search true view.cwd ⟨path⟩
    match place.node? with
    | some (.file _) =>
      if isTrailed then throw .notDirectory
    | _ => pure ()
    return (Location.path place.location).bytes
  | .nothing =>
    if path = [] then throw .notFound
    let base := if path.head? = some separator then [] else view.cwd.map Name.bytes
    let names := extended view (path.length + 1000) base (Text.splitAt separator path)
    return separator :: Text.joinWith separator names

/-- Tells what links lead to, or what absolute paths paths denote. -/
def readLinks (arguments : List Bytes) : Tool Unit := do
  let given ← options [toggle "f" ["canonicalize"], toggle "e" ["canonicalize-existing"],
    toggle "m" ["canonicalize-missing"], toggle "n" ["no-newline"], toggle "q" ["quiet"],
    toggle "s" ["silent"], toggle "v" ["verbose"], toggle "z" ["zero"]] arguments 1
  Entry.require given.operands "missing operand"
  let isMany := 1 < given.operands.length
  if given.has "n" && isMany then
    warn (Bytes.ofString "ignoring --no-newline with multiple arguments")
  let ending : Bytes :=
    if given.has "n" && !isMany then [] else [if given.has "z" then 0 else 0x0A]
  for path in given.operands do
    let seen ← view
    let found : Except Fault Bytes :=
      match given.last? ["f", "e", "m"] with
      | some "f" => resolved seen .allButLast path
      | some "e" => resolved seen .all path
      | some _ => resolved seen .nothing path
      | none =>
        match seen.linkStat ⟨path⟩ with
        | .ok (.link target) => .ok target.bytes
        | .ok _ => .error .invalid
        | .error fault => .error fault
    match found with
    | .ok target => put (target ++ ending)
    | .error fault =>
      if given.last? ["q", "s", "v"] = some "v" then
        complain (Quotation.shown path ++ Bytes.ofString (": " ++ fault.reason))
      else setCode 1

/-- Tells what absolute paths paths denote. -/
def realPaths (arguments : List Bytes) : Tool Unit := do
  let given ← options [toggle "e" ["canonicalize-existing"], toggle "m" ["canonicalize-missing"],
    toggle "L" ["logical"], toggle "P" ["physical"], toggle "q" ["quiet"],
    setting "to" ["relative-to"], setting "base" ["relative-base"],
    toggle "s" ["strip", "no-symlinks"], toggle "z" ["zero"]] arguments 1
  Entry.require given.operands "missing operand"
  let extent : Extent :=
    match given.last? ["e", "m"] with
    | some "e" => .all
    | some _ => .nothing
    | none => .allButLast
  let resolve (view : View) (path : Bytes) : Except Fault Bytes := do
    if given.last? ["L", "P", "s"] = some "s" then
      if path = [] then throw .notFound
      let _ ← resolved view extent path
      let base := if path.head? = some separator then [] else view.cwd.map Name.bytes
      let step (names : List Bytes) (segment : Bytes) : List Bytes :=
        if Path.silent segment then names
        else if segment = [ascii '.', ascii '.'] then names.dropLast
        else names ++ [segment]
      return separator :: Text.joinWith separator ((Text.splitAt separator path).foldl step base)
    else resolved view extent path
  let isBelow (base path : Bytes) : Bool :=
    (Transfer.namesOf base).isPrefixOf (Transfer.namesOf path)
  for path in given.operands do
    let seen ← view
    match resolve seen path with
    | .error fault =>
      if given.has "q" then setCode 1
      else complain (Quotation.shown path ++ Bytes.ofString (": " ++ fault.reason))
    | .ok found =>
      let base? := (given.value? "base").bind fun base => (resolve seen base).toOption
      let to? := ((given.value? "to").bind fun base => (resolve seen base).toOption).or base?
      let shown :=
        match to? with
        | none => found
        | some base =>
          if base?.all fun limit => isBelow limit found then
            Transfer.relative (Transfer.namesOf base) (Transfer.namesOf found)
          else found
      put (shown ++ [if given.has "z" then 0 else 0x0A])

end ChangelogSql.Utility.Listing
