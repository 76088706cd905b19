import ChangelogSql.Repository.Patch
import ChangelogSql.Repository.Revision
import ChangelogSql.Utility.Calendar

/-!
The commits from which a commit came, and how they are told.
-/

namespace ChangelogSql.Repository

open Text (ascii)
open Utility (Moment Day)

/-- A commit with its name. -/
abbrev Named := Id × Commit

namespace Work

/-- Puts a commit among others, the newest first; it comes behind those that are as new. -/
def insertByTime (named : Named) (others : List Named) : List Named :=
  let before := others.takeWhile fun other =>
    named.2.committer.time ≤ other.2.committer.time
  before ++ named :: others.drop before.length

/-- Some commits and those they came from, the newest first. `seen` are those that have been
met. `fuel` bounds their number. -/
def walk (session : Session) (firstParents : Bool) : Nat → List Named → List Id → List Named
  | 0, _, _ => []
  | _, [], _ => []
  | fuel + 1, (id, commit) :: waiting, seen =>
    let parents := if firstParents then commit.parents.take 1 else commit.parents
    let fresh := parents.filter fun parent => !seen.contains parent
    let found := fresh.filterMap fun parent =>
      match object? session parent with
      | some (.commit commit) => some (parent, commit)
      | _ => none
    let waiting := found.foldl (fun waiting named => insertByTime named waiting) waiting
    (id, commit) :: walk session firstParents fuel waiting (fresh ++ seen)

/-- How many commits are gone through at most. -/
def historyLimit : Nat := 100000

/-- All commits from which some came, these included, but not those from which others came. -/
def history (firstParents : Bool) (wanted unwanted : List Named) : Work (List Named) := do
  let session ← get
  let from' (starts : List Named) : List Named :=
    let starts := starts.foldl
      (fun starts named =>
        if starts.any (·.1 = named.1) then starts else insertByTime named starts)
      []
    walk session firstParents historyLimit starts (starts.map Prod.fst)
  let out := (from' unwanted).map Prod.fst
  return (from' wanted).filter fun named => !out.contains named.1

/-- What a commit changed beside its first parent. -/
def deltasOf (detectsRenames : Bool) (commit : Commit) : Work (List Delta) := do
  let session ← get
  let new ← snapshotOf commit.tree
  let old ←
    match commit.parents with
    | [] => pure []
    | parent :: _ =>
      match ← commit? parent with
      | some parent => snapshotOf parent.tree
      | none => pure []
  return Delta.between (keptContent session) (keptContent session) detectsRenames old new

end Work

namespace Commit

/-- The lines of a message, without those in front that are blank. -/
def lines (commit : Commit) : List Bytes :=
  let lines := Text.splitAt 0x0A commit.message
  let lines := if lines.getLast? = some [] then lines.dropLast else lines
  lines.dropWhile fun line => line.all Text.Ascii.isSpace

def isBlank (line : Bytes) : Bool := line.all Text.Ascii.isSpace

/-- The first paragraph of a message as one line. -/
def subject (commit : Commit) : Bytes :=
  let lines := commit.lines.takeWhile fun line => !isBlank line
  Text.joinWith 0x20 lines

/-- What comes behind the first paragraph. -/
def body (commit : Commit) : Bytes :=
  let rest := commit.lines.dropWhile fun line => !isBlank line
  (rest.dropWhile isBlank).flatMap (· ++ [0x0A])

/-- The first paragraph as the name of a file. -/
def fileName (commit : Commit) : Bytes :=
  let isPlain (b : UInt8) : Bool := Text.Ascii.isNameByte b || b = ascii '.'
  let rec go : Bytes → Bytes
    | [] => []
    | b :: rest =>
      let others := go rest
      if isPlain b then
        if b = ascii '.' && others.head? = some (ascii '.') then others else b :: others
      else if others.head? = some (ascii '-') then others
      else ascii '-' :: others
  let text := (go commit.subject).dropWhile (· = ascii '-')
  (text.reverse.dropWhile fun b => b = ascii '-' || b = ascii '.').reverse

end Commit

/-- How dates are shown. -/
inductive DateForm where
  | plain
  | iso
  | strict
  | short
  | unix
  | raw
  | mail
  | relative
  | form (text : Bytes)
  deriving DecidableEq

namespace DateForm

def ofBytes? (text : Bytes) : Option DateForm :=
  match Bytes.shown text with
  | "default" | "local" => some .plain
  | "iso" | "iso8601" => some .iso
  | "iso-strict" | "iso8601-strict" => some .strict
  | "short" => some .short
  | "unix" => some .unix
  | "raw" => some .raw
  | "rfc" | "rfc2822" => some .mail
  | "relative" | "human" => some .relative
  | _ => (Text.afterBlock? (Bytes.ofString "format:") text).map .form

/-- How many seconds a time zone lies ahead. -/
def offset (zone : Bytes) : Int :=
  let digits := Text.Ascii.value 10 (zone.drop 1)
  let seconds : Int := (digits / 100 * 60 + digits % 100) * 60
  if zone.head? = some (ascii '-') then -seconds else seconds

/-- How long ago something was. -/
def ago (seconds : Int) : Bytes :=
  let unit (count : Int) (name : String) : Bytes :=
    let ending := if count = 1 then "" else "s"
    Bytes.ofString s!"{count} {name}{ending} ago"
  if seconds < 0 then Bytes.ofString "in the future"
  else if seconds < 90 then unit seconds "second"
  else
    let minutes := (seconds + 30) / 60
    if minutes < 90 then unit minutes "minute"
    else
      let hours := (minutes + 30) / 60
      if hours < 36 then unit hours "hour"
      else
        let days := (hours + 12) / 24
        if days < 14 then unit days "day"
        else if days < 70 then unit ((days + 3) / 7) "week"
        else if days < 365 then unit ((days + 15) / 30) "month"
        else unit ((days + 183) / 365) "year"

/-- A date. -/
def shown (form : DateForm) (now : Int) (signature : Signature) : Bytes :=
  let moment := Moment.ofSeconds (signature.time + offset signature.zone)
  let zone := signature.zone
  let inForm (text : String) : Bytes := Bytes.ofString (moment.inForm text.toList)
  match form with
  | .plain => inForm "%a %b %-d %T %Y " ++ zone
  | .iso => inForm "%F %T " ++ zone
  | .strict =>
    let mark :=
      if zone.drop 1 = Bytes.ofString "0000" then Bytes.ofString "Z"
      else zone.take 3 ++ ascii ':' :: zone.drop 3
    inForm "%FT%T" ++ mark
  | .short => inForm "%F"
  | .unix => Text.Ascii.ofInt signature.time
  | .raw => Text.Ascii.ofInt signature.time ++ ascii ' ' :: zone
  | .mail => inForm "%a, %-d %b %Y %T " ++ zone
  | .relative => ago (now - signature.time)
  | .form text => Bytes.ofString (moment.inForm (Bytes.shown text).toList)

end DateForm

/-- How commits are told. -/
inductive Style where
  | oneline
  | short
  | medium
  | full
  | fuller
  | reference
  | raw
  /-- A form of one's own; lines are ended or set apart. -/
  | custom (text : Bytes) (isEnded : Bool)
  deriving DecidableEq

/-- What is needed to tell commits. -/
structure Telling where
  style : Style
  date : DateForm
  isShortened : Bool
  now : Int
  /-- The names that lead to commits, as they are shown beside them. -/
  decorations : List (Id × List Bytes)
  showsDecorations : Bool

namespace Telling

/-- The name of something as it is shown. -/
def name (telling : Telling) (id : Id) : Bytes :=
  if telling.isShortened then Work.short id else id

/-- The names beside a commit. -/
def decoration (telling : Telling) (id : Id) : Bytes :=
  match telling.decorations.lookup id with
  | none | some [] => []
  | some (first :: rest) => first ++ rest.flatMap fun name => Bytes.ofString ", " ++ name

def decorated (telling : Telling) (id : Id) : Bytes :=
  match telling.decoration id with
  | [] => []
  | text => Bytes.ofString " (" ++ text ++ Bytes.ofString ")"

/-- What a letter means of a person or a date. -/
def ofSignature? (telling : Telling) (signature : Signature) (letter : Char) : Option Bytes :=
  match letter with
  | 'n' | 'N' => some signature.name
  | 'e' | 'E' => some signature.address
  | 'l' | 'L' => some (signature.address.takeWhile (· ≠ ascii '@'))
  | 'd' => some (telling.date.shown telling.now signature)
  | 'D' => some (DateForm.mail.shown telling.now signature)
  | 'r' | 'h' => some (DateForm.relative.shown telling.now signature)
  | 't' => some (Text.Ascii.ofInt signature.time)
  | 'i' => some (DateForm.iso.shown telling.now signature)
  | 'I' => some (DateForm.strict.shown telling.now signature)
  | 's' => some (DateForm.short.shown telling.now signature)
  | _ => none

/-- What stands for a sign behind a percent sign, and what comes behind the sign. -/
def part? (telling : Telling) (named : Named) (text : Bytes) : Option (Bytes × Bytes) :=
  let (id, commit) := named
  let parents (shown : Id → Bytes) : Bytes := Text.joinWith 0x20 (commit.parents.map shown)
  match text with
  | [] => none
  | letter :: rest =>
    match Char.ofNat letter.toNat with
    | 'H' => some (id, rest)
    | 'h' => some (Work.short id, rest)
    | 'T' => some (commit.tree, rest)
    | 't' => some (Work.short commit.tree, rest)
    | 'P' => some (parents fun id => id, rest)
    | 'p' => some (parents Work.short, rest)
    | 's' => some (commit.subject, rest)
    | 'f' => some (commit.fileName, rest)
    | 'b' => some (commit.body, rest)
    | 'B' => some (commit.lines.flatMap (· ++ [0x0A]), rest)
    | 'd' => some (telling.decorated id, rest)
    | 'D' => some (telling.decoration id, rest)
    | 'e' => some ([], rest)
    | 'N' => some ([], rest)
    | 'm' => some ([ascii '>'], rest)
    | 'n' => some ([0x0A], rest)
    | '%' => some ([ascii '%'], rest)
    | 'a' | 'c' =>
      let signature := if letter = ascii 'a' then commit.author else commit.committer
      match rest with
      | [] => none
      | next :: rest =>
        (telling.ofSignature? signature (Char.ofNat next.toNat)).map fun bytes => (bytes, rest)
    | 'x' =>
      match rest with
      | high :: low :: rest =>
        match Text.Ascii.hexDigit? high, Text.Ascii.hexDigit? low with
        | some high, some low => some ([UInt8.ofNat (16 * high + low)], rest)
        | _, _ => none
      | _ => none
    | 'C' =>
      let names := ["red", "green", "blue", "reset", "yellow", "bold"]
      match rest with
      | 0x28 :: more => some ([], (more.dropWhile (· ≠ 0x29)).drop 1)
      | _ =>
        names.findSome? fun name =>
          (Text.afterBlock? (Bytes.ofString name) rest).map fun rest => ([], rest)
    | _ => none

/-- A form filled in. Blanks or line ends can be asked for in front of what is not empty, and line
ends in front of what is empty be taken away. `fuel` bounds how many signs there are. -/
def filled (telling : Telling) (named : Named) : Nat → Bytes → Bytes → Bytes
  | 0, _, done => done.reverse
  | _, [], done => done.reverse
  | fuel + 1, b :: rest, done =>
    if b ≠ ascii '%' then filled telling named fuel rest (b :: done)
    else
      let mark? := rest.head?.filter fun b => b = ascii '+' || b = ascii '-' || b = ascii ' '
      let text := if mark?.isSome then rest.drop 1 else rest
      match telling.part? named text with
      | none => filled telling named fuel rest (b :: done)
      | some (bytes, rest) =>
        let done :=
          match mark? with
          | some mark =>
            if mark = ascii '-' then
              if bytes = [] then done.dropWhile (· = 0x0A) else done
            else if bytes = [] then done
            else if mark = ascii '+' then 0x0A :: done
            else 0x20 :: done
          | none => done
        filled telling named fuel rest (bytes.reverse ++ done)

/-- The lines of a message, set in. -/
def indented (commit : Commit) : Bytes :=
  commit.lines.flatMap fun line => Bytes.ofString "    " ++ line ++ [0x0A]

/-- A line with a person. -/
def personLine (words : String) (signature : Signature) : Bytes :=
  Bytes.ofString words ++ signature.person ++ [0x0A]

/-- A line with a date. -/
def dateLine (telling : Telling) (words : String) (signature : Signature) : Bytes :=
  Bytes.ofString words ++ telling.date.shown telling.now signature ++ [0x0A]

/-- A commit as it is told, without what ends it. -/
def told (telling : Telling) (named : Named) : Bytes :=
  let (id, commit) := named
  let title := Bytes.ofString "commit " ++ telling.name id
    ++ (if telling.showsDecorations then telling.decorated id else []) ++ [0x0A]
  let merge :=
    if commit.parents.length ≤ 1 then []
    else
      Bytes.ofString "Merge: " ++ Text.joinWith 0x20 (commit.parents.map Work.short) ++ [0x0A]
  let author (words : String) : Bytes := personLine words commit.author
  match telling.style with
  | .oneline =>
    telling.name id ++ (if telling.showsDecorations then telling.decorated id else [])
      ++ ascii ' ' :: commit.subject
  | .reference =>
    Work.short id ++ Bytes.ofString " (" ++ commit.subject ++ Bytes.ofString ", "
      ++ DateForm.short.shown telling.now commit.committer ++ Bytes.ofString ")"
  | .short =>
    title ++ merge ++ author "Author: " ++ Bytes.ofString "\n    " ++ commit.subject ++ [0x0A]
  | .medium =>
    title ++ merge ++ author "Author: " ++ telling.dateLine "Date:   " commit.author ++ [0x0A]
      ++ indented commit
  | .full =>
    title ++ merge ++ author "Author: " ++ personLine "Commit: " commit.committer ++ [0x0A]
      ++ indented commit
  | .fuller =>
    title ++ merge ++ author "Author:     " ++ telling.dateLine "AuthorDate: " commit.author
      ++ personLine "Commit:     " commit.committer
      ++ telling.dateLine "CommitDate: " commit.committer ++ [0x0A] ++ indented commit
  | .raw =>
    title ++ Object.field "tree" commit.tree ++ commit.parents.flatMap (Object.field "parent")
      ++ Object.field "author" commit.author.bytes
      ++ Object.field "committer" commit.committer.bytes ++ [0x0A] ++ indented commit
  | .custom text _ => telling.filled named (text.length + 1) text []

/-- Every commit is ended, and not set apart from the next one. -/
def isEnded (telling : Telling) : Bool :=
  match telling.style with
  | .oneline | .reference => true
  | .custom _ isEnded => isEnded
  | _ => false

end Telling

/-- The style that a text lays down, where it does. -/
def Style.ofBytes? (text : Bytes) : Option Style :=
  match Bytes.shown text with
  | "oneline" => some .oneline
  | "short" => some .short
  | "medium" => some .medium
  | "full" => some .full
  | "fuller" => some .fuller
  | "reference" => some .reference
  | "raw" => some .raw
  | _ =>
    match Text.afterBlock? (Bytes.ofString "format:") text with
    | some rest => some (.custom rest false)
    | none =>
      match Text.afterBlock? (Bytes.ofString "tformat:") text with
      | some rest => some (.custom rest true)
      | none => if text.contains (ascii '%') then some (.custom text true) else none

/-- The names beside commits: the head, branches and marks. -/
def Work.decorations : Work (List (Id × List Bytes)) := do
  let head ← Work.head
  let headId? ← Work.headId?
  let session ← get
  let branches ← Work.references "refs/heads/"
  let marks ← Work.references "refs/tags/"
  let ids := (headId?.toList ++ (branches ++ marks).map Prod.snd).filterMap fun id =>
    (Work.peeled? session Work.markLimit id).map Prod.fst
  return ids.eraseDups.map fun id =>
    let own := branches.filter (·.2 = id)
    let current :=
      match head with
      | .reference name =>
        if headId? = some id then
          [Bytes.ofString "HEAD -> " ++ Work.shortName name]
        else []
      | .detached _ => if headId? = some id then [Bytes.ofString "HEAD"] else []
    let others := own.filter fun branch => head ≠ .reference branch.1 || headId? ≠ some id
    let ownMarks := marks.filter fun mark =>
      (Work.peeled? session Work.markLimit mark.2).map Prod.fst = some id
    (id, current
      ++ ownMarks.reverse.map (fun mark => Bytes.ofString "tag: " ++ Work.shortName mark.1)
      ++ others.map fun branch => Work.shortName branch.1)

end ChangelogSql.Repository
