import ChangelogSql.Shell.Pattern
import ChangelogSql.Utility.Launch
import ChangelogSql.Utility.Listing

/-!
The program that goes through directories and does something with what a
condition selects. Every part of a condition is true or false of what is looked
at, also those that do something.
-/

namespace ChangelogSql.Utility.Find

open Text (ascii)
open Files Programs Kernel
open Tool

/-- How a number is compared with one that is given. -/
inductive Comparison where
  | less
  | same
  | more
  deriving DecidableEq

def Comparison.holds (comparison : Comparison) (number given : Nat) : Bool :=
  match comparison with
  | .less => number < given
  | .same => number = given
  | .more => given < number

/-- A part of a condition that stands for itself. -/
inductive Primary where
  | constant (value : Bool)
  | name (ignoresCase : Bool) (pattern : Bytes)
  | path (ignoresCase : Bool) (pattern : Bytes)
  | linkName (pattern : Bytes)
  | oneOf (kinds : List Kind)
  | size (comparison : Comparison) (number unit : Nat)
  | empty
  | newer (time : Nat)
  | permission (sign : Option UInt8) (mode : Nat)
  | links (comparison : Comparison) (number : Nat)
  | age (comparison : Comparison) (number unit : Nat)
  | sameFile (identity : Identity)
  | runnable
  | print (ending : UInt8)
  | layout (form : Bytes)
  | delete
  | run (words : List Bytes) (asks : Bool)
  | runTogether (words : List Bytes)
  | prune
  | quit

/-- A condition. -/
inductive Condition where
  | single (primary : Primary)
  | not (condition : Condition)
  | and (first second : Condition)
  | or (first second : Condition)
  | list (first second : Condition)

/-- What is said for the whole search. -/
structure Manner where
  least : Nat
  most : Option Nat
  depthFirst : Bool
  follows : Bool
  followsNamed : Bool
  /-- Something is done with what is found, so that it is not just shown. -/
  acts : Bool

/-- Words that are left, and what has been said for the whole search. -/
structure Reading where
  words : List Bytes
  manner : Manner
  view : View
  clock : Nat

/-- A step of reading a condition. -/
abbrev Reader (α : Type) := ExceptT Bytes (StateM Reading) α

def refuse {α : Type} (text : Bytes) : Reader α :=
  throw text

/-- A word between a backquote and a quote. -/
def marked (word : Bytes) : Bytes :=
  0x60 :: word ++ [0x27]

/-- The word behind another one that needs it. -/
def argument (word : Bytes) : Reader Bytes := do
  match (← get).words with
  | [] => refuse (Bytes.ofString "missing argument to " ++ marked word)
  | first :: rest =>
    modify ({ · with words := rest })
    return first

/-- A number with a sign in front that says how it is compared. -/
def compared? (text : Bytes) : Option (Comparison × Nat × Bytes) :=
  let (comparison, rest) :=
    match text with
    | 0x2B :: rest => (Comparison.more, rest)
    | 0x2D :: rest => (Comparison.less, rest)
    | rest => (Comparison.same, rest)
  let digits := rest.takeWhile Text.Ascii.isDigit
  if digits = [] then none
  else some (comparison, Text.Ascii.value 10 digits, rest.drop digits.length)

/-- The kind that a letter stands for. -/
def kind? (letter : Bytes) : Option Kind :=
  match Bytes.shown letter with
  | "f" => some .file
  | "d" => some .directory
  | "l" => some .link
  | "p" => some .queue
  | "c" => some .device
  | _ => none

/-- The number that a word must be. -/
def depthOf (word : Bytes) : Reader Nat := do
  let text ← argument word
  match Text.Ascii.decimal? text with
  | some number => return number
  | none =>
    refuse (Bytes.ofString "Expected a positive decimal integer argument to " ++ word
      ++ Bytes.ofString ", but got " ++ Quotation.quoted text)

/-- The words of a command up to the one that ends it, and whether what is found is gathered. -/
def commandWords (word : Bytes) : List Bytes → List Bytes → Reader (List Bytes × Bool)
  | _, [] => refuse (Bytes.ofString "missing argument to " ++ marked word)
  | before, first :: rest =>
    let isPlace := before.head? = some (Bytes.ofString "\x7b\x7d")
    if first = [ascii ';'] then do
      if before.isEmpty then
        refuse (Bytes.ofString "invalid argument " ++ marked first ++ Bytes.ofString " to "
          ++ marked word)
      modify ({ · with words := rest })
      return (before.reverse, false)
    else if first = [ascii '+'] && isPlace then do
      modify ({ · with words := rest })
      return ((before.drop 1).reverse, true)
    else commandWords word (first :: before) rest

/-- Something is done with what is found. -/
def acting : Reader Unit :=
  modify fun reading => { reading with manner := { reading.manner with acts := true } }

/-- The part of a condition that a word begins. -/
def primaryOf (word : Bytes) : Reader Primary := do
  match Bytes.shown word with
  | "-name" => return .name false (← argument word)
  | "-iname" => return .name true (← argument word)
  | "-path" | "-wholename" => return .path false (← argument word)
  | "-ipath" | "-iwholename" => return .path true (← argument word)
  | "-lname" => return .linkName (← argument word)
  | "-type" | "-xtype" =>
    let text ← argument word
    match (Text.splitAt (ascii ',') text).mapM kind? with
    | some kinds => return .oneOf kinds
    | none => refuse (Bytes.ofString "Unknown argument to " ++ word ++ Bytes.ofString ": " ++ text)
  | "-size" =>
    let text ← argument word
    let unit? (letter : Bytes) : Option Nat :=
      match Bytes.shown letter with
      | "" | "b" => some 512
      | "c" => some 1
      | "w" => some 2
      | "k" => some 1024
      | "M" => some 1048576
      | "G" => some 1073741824
      | _ => none
    match compared? text with
    | some (comparison, number, letter) =>
      match unit? letter with
      | some unit => return .size comparison number unit
      | none =>
        refuse (Bytes.ofString "invalid -size type " ++ marked letter)
    | none => refuse (Bytes.ofString "Invalid argument " ++ marked text ++ Bytes.ofString " to -size")
  | "-links" =>
    let text ← argument word
    match compared? text with
    | some (comparison, number, []) => return .links comparison number
    | _ => refuse (Bytes.ofString "invalid argument " ++ marked text ++ Bytes.ofString " to " ++ marked word)
  | "-mmin" | "-mtime" | "-amin" | "-atime" | "-cmin" | "-ctime" =>
    let text ← argument word
    let unit := if (Bytes.ofString "min").isSuffixOf word then 60 else 86400
    match compared? text with
    | some (comparison, number, _) => return .age comparison number unit
    | none => refuse (Bytes.ofString "invalid argument " ++ marked text ++ Bytes.ofString " to " ++ marked word)
  | "-empty" => return .empty
  | "-newer" =>
    let path ← argument word
    match (← get).view.facts true ⟨path⟩ with
    | .ok facts => return .newer facts.modified
    | .error fault => refuse (Quotation.quoted path ++ Bytes.ofString (": " ++ fault.reason))
  | "-samefile" =>
    let path ← argument word
    match (← get).view.facts false ⟨path⟩ with
    | .ok facts => return .sameFile facts.identity
    | .error fault => refuse (Quotation.quoted path ++ Bytes.ofString (": " ++ fault.reason))
  | "-perm" =>
    let text ← argument word
    let sign := text.head?.filter fun b => b = ascii '-' || b = ascii '/'
    match Mode.changed? (if sign.isSome then text.drop 1 else text) 0 false 0 with
    | some mode => return .permission sign mode
    | none => refuse (Bytes.ofString "invalid mode " ++ Quotation.cited text)
  | "-executable" => return .runnable
  | "-true" | "-readable" | "-writable" => return .constant true
  | "-false" => return .constant false
  | "-user" | "-group" | "-uid" | "-gid" =>
    let text ← argument word
    return .constant (text = Bytes.ofString "root" || text = [ascii '0'])
  | "-print" =>
    acting
    return .print 0x0A
  | "-print0" =>
    acting
    return .print 0
  | "-printf" =>
    acting
    return .layout (← argument word)
  | "-delete" =>
    acting
    modify fun reading => { reading with manner := { reading.manner with depthFirst := true } }
    return .delete
  | "-exec" | "-execdir" | "-ok" | "-okdir" =>
    acting
    let (words, isTogether) ← commandWords word [] (← get).words
    if isTogether then return .runTogether words
    else return .run words (word = Bytes.ofString "-ok" || word = Bytes.ofString "-okdir")
  | "-prune" => return .prune
  | "-quit" =>
    return .quit
  | "-maxdepth" =>
    let most ← depthOf word
    modify fun reading => { reading with manner := { reading.manner with most := some most } }
    return .constant true
  | "-mindepth" =>
    let least ← depthOf word
    modify fun reading => { reading with manner := { reading.manner with least } }
    return .constant true
  | "-depth" | "-d" =>
    modify fun reading => { reading with manner := { reading.manner with depthFirst := true } }
    return .constant true
  | "-follow" =>
    modify fun reading => { reading with manner := { reading.manner with follows := true } }
    return .constant true
  | "-xdev" | "-mount" | "-noleaf" | "-daystart" | "-warn" | "-nowarn"
  | "-ignore_readdir_race" | "-noignore_readdir_race" => return .constant true
  | "-regextype" =>
    let _ ← argument word
    return .constant true
  | _ => refuse (Bytes.ofString "unknown predicate " ++ marked word)

/-- The word is one of some. -/
def isOne (words : List String) (word : Bytes) : Bool :=
  words.any fun text => word = Bytes.ofString text

/-- The first word that is left. -/
def ahead : Reader (Option Bytes) := do
  return (← get).words.head?

def advance : Reader Unit :=
  modify fun reading => { reading with words := reading.words.drop 1 }

mutual

/-- A condition in parentheses, behind a negation, or a single part. -/
def readUnit : Nat → Reader Condition
  | 0 => refuse (Bytes.ofString "the condition is too long")
  | fuel + 1 => do
    match ← ahead with
    | none => refuse (Bytes.ofString "expected an expression")
    | some word =>
      advance
      if isOne ["!", "-not"] word then
        if (← ahead).isNone then
          refuse (Bytes.ofString "expected an expression after '" ++ word ++ [0x27])
        return .not (← readUnit fuel)
      else if word = [ascii '('] then
        if (← ahead).isNone then
          refuse (Bytes.ofString ("invalid expression; expected to find a ')' but didn't see one. "
            ++ "Perhaps you need an extra predicate after '('"))
        if (← ahead) = some [ascii ')'] then
          refuse (Bytes.ofString
            "invalid expression; empty parentheses are not allowed.")
        let condition ← readList fuel
        match ← ahead with
        | some [0x29] =>
          advance
          return condition
        | _ =>
          refuse (Bytes.ofString ("invalid expression; I was expecting to find a ')' somewhere but "
            ++ "did not see one."))
      else if word = [ascii ')'] then
        refuse (Bytes.ofString "invalid expression; you have too many ')'")
      else if isOne ["-a", "-and", "-o", "-or", ","] word then
        refuse (Bytes.ofString "invalid expression; you have used a binary operator '" ++ word
          ++ Bytes.ofString "' with nothing before it.")
      else return .single (← primaryOf word)

/-- Conditions that all must hold. -/
def readAnd : Nat → Reader Condition
  | 0 => refuse (Bytes.ofString "the condition is too long")
  | fuel + 1 => do
    let first ← readUnit fuel
    readAndFrom fuel first

def readAndFrom : Nat → Condition → Reader Condition
  | 0, condition => return condition
  | fuel + 1, condition => do
    match ← ahead with
    | none => return condition
    | some word =>
      if isOne ["-o", "-or", ",", ")"] word then return condition
      else
        if isOne ["-a", "-and"] word then
          advance
          if (← ahead).isNone then
            refuse (Bytes.ofString "expected an expression after '" ++ word ++ [0x27])
        let next ← readUnit fuel
        readAndFrom fuel (.and condition next)

/-- Conditions of which one must hold. -/
def readOr : Nat → Reader Condition
  | 0 => refuse (Bytes.ofString "the condition is too long")
  | fuel + 1 => do
    let first ← readAnd fuel
    match ← ahead with
    | some word =>
      if isOne ["-o", "-or"] word then
        advance
        if (← ahead).isNone then
          refuse (Bytes.ofString "expected an expression after '" ++ word ++ [0x27])
        return .or first (← readOr fuel)
      else return first
    | none => return first

/-- Conditions of which the last one counts. -/
def readList : Nat → Reader Condition
  | 0 => refuse (Bytes.ofString "the condition is too long")
  | fuel + 1 => do
    let first ← readOr fuel
    match ← ahead with
    | some [0x2C] =>
      advance
      return .list first (← readList fuel)
    | _ => return first

end

/-- What is looked at. -/
structure Item where
  path : Bytes
  /-- The path that was named and led here. -/
  root : Bytes
  depth : Nat
  facts : Facts

/-- How far a search has come. -/
structure Hunting where
  /-- What is found is not gone into. -/
  isPruned : Bool
  hasEnded : Bool
  /-- What has been gathered for commands, the last first. -/
  gathered : List (List Bytes × List Bytes)

/-- A step of a search. -/
abbrev Hunt (α : Type) := StateT Hunting (ExceptT Unit (StateT Desk Activity)) α

/-- Letters of a pattern; a backslash takes the meaning of the one behind it. -/
def lettersOf : Bytes → List Shell.Letter
  | [] => []
  | 0x5C :: b :: rest => ⟨b, false⟩ :: lettersOf rest
  | b :: rest => ⟨b, true⟩ :: lettersOf rest

/-- A pattern matches a text. -/
def fits (ignoresCase : Bool) (pattern text : Bytes) : Bool :=
  let fold (bytes : Bytes) : Bytes := if ignoresCase then bytes.map Text.Ascii.lower else bytes
  Shell.Pattern.accepts (Shell.Pattern.ofLetters (lettersOf (fold pattern))) (fold text)

/-- The last segment of a path, as it is compared with names. -/
def nameOf (path : Bytes) : Bytes :=
  let cut := (path.reverse.dropWhile (· = separator)).reverse
  if cut = [] then path.take 1 else (cut.reverse.takeWhile (· ≠ separator)).reverse

/-- A word with the path in the places for it. -/
def filled (path word : Bytes) : Bytes :=
  Text.replaceAll (Bytes.ofString "\x7b\x7d") path word

/-- A fact that a letter of a form stands for. -/
def factText (view : View) (item : Item) (letter : UInt8) : Bytes :=
  match Char.ofNat letter.toNat with
  | 'p' => item.path
  | 'f' => nameOf item.path
  | 'h' =>
    if item.path.contains separator then
      let cut := (item.path.reverse.dropWhile (· ≠ separator)).drop 1
      cut.reverse
    else [ascii '.']
  | 'P' =>
    let rest := item.path.drop item.root.length
    if rest.head? = some separator then rest.drop 1 else rest
  | 'H' => item.root
  | 'd' => Text.Ascii.ofNat item.depth
  | 's' => Text.Ascii.ofNat item.facts.size
  | 'm' => Numeral.Directive.digitsOf 8 item.facts.mode
  | 'M' => Listing.modeText item.facts
  | 'n' => Text.Ascii.ofNat (Listing.linksOf view item.path item.facts)
  | 'y' | 'Y' =>
    let letter := Listing.kindLetter item.facts.kind
    if letter = ascii '-' then [ascii 'f'] else [letter]
  | 'l' => ((Transfer.linkTarget? view item.path).map Path.bytes).getD []
  | 'u' | 'g' => Bytes.ofString "root"
  | 'U' | 'G' => [ascii '0']
  | 'k' => Text.Ascii.ofNat (Listing.blocksOf item.facts / 2)
  | 'b' => Text.Ascii.ofNat (Listing.blocksOf item.facts)
  | _ => [ascii '%', letter]

/-- Facts in the form that a text lays down. -/
def inForm (view : View) (item : Item) : Nat → Bytes → Bytes
  | 0, _ => []
  | _, [] => []
  | fuel + 1, b :: rest =>
    if b = ascii '%' then
      let isFlag (b : UInt8) : Bool := (Bytes.ofString "-0123456789").contains b
      let flags := rest.takeWhile isFlag
      match rest.drop flags.length with
      | [] => [b]
      | letter :: more =>
        if letter = ascii '%' then b :: inForm view item fuel more
        else if letter = ascii 'T' || letter = ascii 'A' || letter = ascii 'C' then
          let moment := Moment.ofSeconds (item.facts.modified / 1000000000 : Nat)
          let text := (more.head?.bind fun b => moment.part? (Char.ofNat b.toNat)).getD ""
          Bytes.ofString text ++ inForm view item fuel (more.drop 1)
        else
          let width := Text.Ascii.value 10 (flags.filter Text.Ascii.isDigit)
          let directive : Numeral.Directive :=
            { Numeral.Directive.plain with width, isLeft := flags.contains (ascii '-') }
          directive.text (factText view item letter) ++ inForm view item fuel more
    else if b = 0x5C then
      match rest with
      | [] => [b]
      | next :: more =>
        if Text.Ascii.isOctal next then
          let digits := (rest.take 3).takeWhile Text.Ascii.isOctal
          UInt8.ofNat (Text.Ascii.value 8 digits) :: inForm view item fuel (rest.drop digits.length)
        else if next = ascii 'c' then []
        else
          match Shell.Format.simple? next with
          | some byte => byte :: inForm view item fuel more
          | none => b :: next :: inForm view item fuel more
    else b :: inForm view item fuel rest

/-- Starts a command; whether it succeeded. -/
def start (loader : Loader) (call : Call) (words : List Bytes) : Tool Bool := do
  match words with
  | [] => return true
  | name :: arguments =>
    match ← run loader call.environment name arguments with
    | .ended status => return status.success
    | .refused fault =>
      warn (Quotation.quoted name ++ Bytes.ofString (": " ++ fault.reason))
      return false

/-- A part of a condition is true of what is looked at. -/
def Primary.holds (loader : Loader) (call : Call) (item : Item) (primary : Primary) : Hunt Bool := do
  let seen ← (view : Tool View)
  match primary with
  | .constant value => return value
  | .name ignoresCase pattern => return fits ignoresCase pattern (nameOf item.path)
  | .path ignoresCase pattern => return fits ignoresCase pattern item.path
  | .linkName pattern =>
    return (Transfer.linkTarget? seen item.path).any fun target => fits false pattern target.bytes
  | .oneOf kinds => return kinds.contains item.facts.kind
  | .size comparison number unit =>
    return comparison.holds ((item.facts.size + unit - 1) / unit) number
  | .empty =>
    match item.facts.kind with
    | .file => return item.facts.size = 0
    | .directory => return (Transfer.namesIn seen item.path).isEmpty
    | _ => return false
  | .newer time => return time < item.facts.modified
  | .permission sign mode =>
    match sign with
    | none => return item.facts.mode = mode
    | some sign =>
      if sign = ascii '-' then return item.facts.mode &&& mode = mode
      else return mode = 0 || item.facts.mode &&& mode ≠ 0
  | .links comparison number =>
    return comparison.holds (Listing.linksOf seen item.path item.facts) number
  | .age comparison number unit =>
    let clock ← (ask (Kernel.Request.look fun _ system => system.disk.clock) : Tool Nat)
    let age := (clock - item.facts.modified) / 1000000000 / unit
    return comparison.holds age number
  | .sameFile identity => return item.facts.identity = identity
  | .runnable => return isRunnable item.facts.mode
  | .print ending =>
    (put (item.path ++ [ending]) : Tool Unit)
    return true
  | .layout form =>
    (put (inForm seen item (form.length + 1) form) : Tool Unit)
    return true
  | .delete =>
    if item.path = [ascii '.'] then return true
    let done ← (Entry.change fun view _ =>
      if item.facts.kind = .directory then view.removeDirectory ⟨item.path⟩
      else view.unlink ⟨item.path⟩ : Tool (Except Fault Unit))
    match done with
    | .ok () => return true
    | .error fault =>
      (Entry.failure "cannot delete" item.path fault.reason : Tool Unit)
      return false
  | .run words asks =>
    let goesOn ←
      if asks then do
        (flush : Tool Unit)
        (emit (Bytes.ofString "< " ++ words.headD [] ++ Bytes.ofString " ... " ++ item.path
          ++ Bytes.ofString " > ? ") : Tool Unit)
        match ← (line 0 : Tool (Except Fault (Option (Bytes × Bool)))) with
        | .ok (some (b :: _, _)) => pure (b = ascii 'y' || b = ascii 'Y')
        | _ => pure false
      else pure true
    if goesOn then (start loader call (words.map (filled item.path)) : Tool Bool)
    else return false
  | .runTogether words =>
    modify fun hunting =>
      let before := (hunting.gathered.lookup words).getD []
      { hunting with
        gathered := (words, item.path :: before)
          :: hunting.gathered.filter fun entry => entry.1 ≠ words }
    return true
  | .prune =>
    modify ({ · with isPruned := true })
    return true
  | .quit =>
    modify ({ · with hasEnded := true })
    return true

/-- A condition is true of what is looked at. What does not matter is not looked into. -/
def Condition.holds (loader : Loader) (call : Call) (item : Item) : Condition → Hunt Bool
  | .single primary => do
    if (← get).hasEnded then return true
    primary.holds loader call item
  | .not condition => do return !(← condition.holds loader call item)
  | .and first second => do
    if ← first.holds loader call item then second.holds loader call item else return false
  | .or first second => do
    if ← first.holds loader call item then return true else second.holds loader call item
  | .list first second => do
    let _ ← first.holds loader call item
    second.holds loader call item

/-- Goes through what stands at and below a path. -/
def explore (loader : Loader) (call : Call) (manner : Manner) (condition : Condition)
    (root : Bytes) : Nat → Nat → Bytes → Hunt Unit
  | 0, _, _ => return ()
  | fuel + 1, depth, path => do
    if (← get).hasEnded then return ()
    let seen ← (view : Tool View)
    let follows := manner.follows || (depth = 0 && manner.followsNamed)
    let facts : Except Fault Facts :=
      match seen.facts follows ⟨path⟩ with
      | .ok facts => .ok facts
      | .error _ => seen.facts false ⟨path⟩
    match facts with
    | .error fault =>
      (complain (Quotation.quoted path ++ Bytes.ofString (": " ++ fault.reason)) : Tool Unit)
    | .ok facts =>
      let item : Item := ⟨path, root, depth, facts⟩
      let look : Hunt Unit := do
        if manner.least ≤ depth then
          let _ ← condition.holds loader call item
      modify ({ · with isPruned := false })
      if !manner.depthFirst then
        look
      let isPruned := (← get).isPruned && !manner.depthFirst
      if facts.kind = .directory && !isPruned && manner.most.all (depth < ·) then
        for name in Transfer.namesIn seen path do
          explore loader call manner condition root fuel (depth + 1) (Entry.within path name)
      if manner.depthFirst && !(← get).hasEnded then
        look

/-- A word begins the condition. -/
def beginsCondition (word : Bytes) : Bool :=
  match word with
  | 0x2D :: _ :: _ => true
  | [0x28] | [0x21] => true
  | _ => false

/-- Words without those that say how links are treated. -/
def treatments : List Bytes → Manner → List Bytes × Manner
  | word :: rest, manner =>
    if word = Bytes.ofString "-L" then
      treatments rest { manner with follows := true, followsNamed := true }
    else if word = Bytes.ofString "-H" then treatments rest { manner with followsNamed := true }
    else if word = Bytes.ofString "-P" then
      treatments rest { manner with follows := false, followsNamed := false }
    else (word :: rest, manner)
  | [], manner => ([], manner)

/-- Goes through directories. -/
def find (loader : Loader) (call : Call) : Tool Unit := do
  whenUnheard fun reason => (1, ["'standard output': " ++ reason, "write error"])
  let (words, manner) := treatments call.arguments ⟨0, none, false, false, false, false⟩
  let paths := words.takeWhile fun word => !beginsCondition word
  let rest := words.drop paths.length
  let clock ← ask (Kernel.Request.look fun _ system => system.disk.clock)
  let reading : Reading := ⟨rest, manner, ← view, clock⟩
  let whole : Reader Condition := do
    if rest.isEmpty then return .single (.constant true)
    let condition ← readList (2 * rest.length + 2)
    match ← ahead with
    | some word =>
      if word = [ascii ')'] then refuse (Bytes.ofString "invalid expression; you have too many ')'")
      refuse (Bytes.ofString "paths must precede expression: " ++ marked word)
    | none => return condition
  match whole.run reading with
  | (.error text, _) => failWith 1 text
  | (.ok condition, reading) =>
    let manner := reading.manner
    let condition :=
      if manner.acts then condition else .and condition (.single (.print 0x0A))
    let hunt : Hunt Unit := do
      for path in if paths.isEmpty then [[ascii '.']] else paths do
        explore loader call manner condition path Entry.depthLimit 0 path
      for (words, paths) in (← get).gathered.reverse do
        unless ← (start loader call (words ++ paths.reverse) : Tool Bool) do
          (setCode 1 : Tool Unit)
    let _ ← hunt.run ⟨false, false, []⟩

end ChangelogSql.Utility.Find
