import ChangelogSql.Repository.Digest
import ChangelogSql.Text.Search

/-!
What a repository keeps: contents of files, directories, commits and marks. Each
is known by the digest of its bytes, so that what is kept twice is kept once.
-/

namespace ChangelogSql.Repository

open Text (ascii)

/-- The name of something that is kept: forty hexadecimal digits. -/
abbrev Id := Bytes

/-- The name that nothing has. -/
def noId : Id := List.replicate 40 0x30

/-- What can stand in a directory that is kept. -/
inductive Kind where
  | file
  | program
  | link
  | directory
  /-- Another repository. -/
  | module
  deriving DecidableEq

namespace Kind

/-- The digits of a kind. -/
def digits : Kind → String
  | .file => "100644"
  | .program => "100755"
  | .link => "120000"
  | .directory => "40000"
  | .module => "160000"

/-- The digits of a kind, always six of them. -/
def fullDigits : Kind → String
  | .directory => "040000"
  | kind => kind.digits

def all : List Kind := [.file, .program, .link, .directory, .module]

def ofDigits? (digits : Bytes) : Option Kind :=
  all.find? fun kind =>
    Bytes.ofString kind.digits = digits || Bytes.ofString kind.fullDigits = digits

/-- The word for what a kind of entry leads to. -/
def word : Kind → String
  | .directory => "tree"
  | .module => "commit"
  | _ => "blob"

end Kind

/-- An entry of a directory that is kept. -/
structure Entry where
  name : Bytes
  kind : Kind
  id : Id
  deriving DecidableEq

/-- Who did something, and when: seconds since the beginning of 1970 and a time zone. -/
structure Signature where
  name : Bytes
  address : Bytes
  time : Int
  zone : Bytes
  deriving DecidableEq

/-- A state of a working tree with those it came from. -/
structure Commit where
  tree : Id
  parents : List Id
  author : Signature
  committer : Signature
  message : Bytes
  deriving DecidableEq

/-- A mark with a message. -/
structure Mark where
  target : Id
  word : Bytes
  name : Bytes
  tagger : Signature
  message : Bytes
  deriving DecidableEq

/-- Something that is kept. -/
inductive Object where
  | blob (bytes : Bytes)
  | tree (entries : List Entry)
  | commit (commit : Commit)
  | mark (mark : Mark)

namespace Signature

/-- A name with an address. -/
def person (signature : Signature) : Bytes :=
  signature.name ++ Bytes.ofString " <" ++ signature.address ++ Bytes.ofString ">"

def bytes (signature : Signature) : Bytes :=
  signature.person ++ [ascii ' '] ++ Text.Ascii.ofInt signature.time ++ [ascii ' ']
    ++ signature.zone

/-- The signature that a line writes. -/
def ofBytes (line : Bytes) : Signature :=
  let name := line.takeWhile (· ≠ ascii '<')
  let rest := line.drop (name.length + 1)
  let address := rest.takeWhile (· ≠ ascii '>')
  let words := Text.splitAt (ascii ' ') (rest.drop (address.length + 2))
  let trimmed := (name.reverse.dropWhile (· = ascii ' ')).reverse
  ⟨trimmed, address, ((words[0]?).bind Text.Ascii.integer?).getD 0,
    (words[1]?).getD (Bytes.ofString "+0000")⟩

end Signature

namespace Object

/-- The word for what an object is. -/
def word : Object → String
  | .blob _ => "blob"
  | .tree _ => "tree"
  | .commit _ => "commit"
  | .mark _ => "tag"

/-- A line of a header. -/
def field (name : String) (value : Bytes) : Bytes :=
  Bytes.ofString (name ++ " ") ++ value ++ [0x0A]

/-- The bytes of an object. -/
def body : Object → Bytes
  | .blob bytes => bytes
  | .tree entries =>
    entries.flatMap fun entry =>
      Bytes.ofString (entry.kind.digits ++ " ") ++ entry.name ++ 0 :: Digest.ofHex entry.id
  | .commit made =>
    field "tree" made.tree ++ made.parents.flatMap (field "parent")
      ++ field "author" made.author.bytes ++ field "committer" made.committer.bytes
      ++ 0x0A :: made.message
  | .mark made =>
    field "object" made.target ++ field "type" made.word ++ field "tag" made.name
      ++ field "tagger" made.tagger.bytes ++ 0x0A :: made.message

/-- The bytes of an object behind a line that tells what it is and how long. -/
def whole (object : Object) : Bytes :=
  let body := object.body
  Bytes.ofString s!"{object.word} {body.length}" ++ 0 :: body

/-- The name of an object. -/
def id (object : Object) : Id :=
  Digest.hex (Digest.ofBytes object.whole)

/-- The entries of a directory; `fuel` bounds how many there are. -/
def entriesOf : Nat → Bytes → List Entry
  | 0, _ => []
  | fuel + 1, bytes =>
    let digits := bytes.takeWhile (· ≠ ascii ' ')
    let rest := bytes.drop (digits.length + 1)
    let name := rest.takeWhile (· ≠ 0)
    let rest := rest.drop (name.length + 1)
    match Kind.ofDigits? digits with
    | none => []
    | some kind => ⟨name, kind, Digest.hex (rest.take 20)⟩ :: entriesOf fuel (rest.drop 20)

/-- The fields of a header, and what comes behind it. `fuel` bounds how many there are. -/
def header : Nat → Bytes → List (Bytes × Bytes) × Bytes
  | 0, rest => ([], rest)
  | fuel + 1, bytes =>
    let line := bytes.takeWhile (· ≠ 0x0A)
    let rest := bytes.drop (line.length + 1)
    if line = [] then ([], rest)
    else
      let name := line.takeWhile (· ≠ ascii ' ')
      let (fields, rest) := header fuel rest
      ((name, line.drop (name.length + 1)) :: fields, rest)

/-- The object that bytes are, behind the line that tells what it is. -/
def ofWhole? (whole : Bytes) : Option Object :=
  let line := whole.takeWhile (· ≠ 0)
  let body := whole.drop (line.length + 1)
  let value (fields : List (Bytes × Bytes)) (name : String) : Bytes :=
    (fields.lookup (Bytes.ofString name)).getD []
  match Bytes.shown (line.takeWhile (· ≠ ascii ' ')) with
  | "blob" => some (.blob body)
  | "tree" => some (.tree (entriesOf (body.length + 1) body))
  | "commit" =>
    let (fields, message) := header (body.length + 1) body
    let parents := (fields.filter fun field => field.1 = Bytes.ofString "parent").map Prod.snd
    some (.commit ⟨value fields "tree", parents, Signature.ofBytes (value fields "author"),
      Signature.ofBytes (value fields "committer"), message⟩)
  | "tag" =>
    let (fields, message) := header (body.length + 1) body
    some (.mark ⟨value fields "object", value fields "type", value fields "tag",
      Signature.ofBytes (value fields "tagger"), message⟩)
  | _ => none

end Object

end ChangelogSql.Repository
