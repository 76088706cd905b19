import ChangelogSql.Utility.Fingerprint
import ChangelogSql.Utility.Input
import ChangelogSql.Utility.Option

/-!
Telling the fingerprints of files, and checking files against fingerprints that
were told before.
-/

namespace ChangelogSql.Utility.Checksum

open Text (ascii)
open Files Kernel
open Tool

/-- A kind of fingerprint. -/
structure Method where
  /-- How it is called where it is named. -/
  tag : String
  /-- How many bytes it has. -/
  size : Nat
  ofBytes : Bytes → Bytes

def md5 : Method := ⟨"MD5", 16, Fingerprint.md5⟩
def sha1 : Method := ⟨"SHA1", 20, Repository.Digest.ofBytes⟩
def sha224 : Method := ⟨"SHA224", 28, Fingerprint.sha224.ofBytes⟩
def sha256 : Method := ⟨"SHA256", 32, Fingerprint.sha256.ofBytes⟩
def sha384 : Method := ⟨"SHA384", 48, Fingerprint.sha384.ofBytes⟩
def sha512 : Method := ⟨"SHA512", 64, Fingerprint.sha512.ofBytes⟩

/-- A name with backslashes and line ends written out, and whether there were any. -/
def escaped (name : Bytes) : Bytes × Bool :=
  let shown (b : UInt8) : Bytes :=
    if b = 0x5C then Bytes.ofString "\\\\"
    else if b = 0x0A then Bytes.ofString "\\n"
    else if b = 0x0D then Bytes.ofString "\\r"
    else [b]
  let text := name.flatMap shown
  (text, text ≠ name)

/-- A name in which backslashes and line ends were written out. -/
def unescaped : Bytes → Option Bytes
  | [] => some []
  | 0x5C :: b :: rest => do
    let byte ←
      if b = 0x5C then some 0x5C
      else if b = ascii 'n' then some 0x0A
      else if b = ascii 'r' then some 0x0D
      else none
    return byte :: (← unescaped rest)
  | [0x5C] => none
  | b :: rest => return b :: (← unescaped rest)

/-- The digits of a fingerprint. -/
def digits (method : Method) (bytes : Bytes) : Bytes :=
  Repository.Digest.hex (method.ofBytes bytes)

/-- Tells the fingerprints of files. -/
def tell (method : Method) (given : Given) : Tool Unit := do
  let isRaw := given.has "z"
  let ending : UInt8 := if isRaw then 0 else 0x0A
  forInputs given.operands fun path descriptor => do
    match ← readAll descriptor with
    | .error fault => complainOf path fault
    | .ok bytes =>
      let (name, isEscaped) := if isRaw then (path, false) else escaped path
      let front := if isEscaped then [ascii '\\'] else []
      if given.has "tag" then
        put (front ++ Bytes.ofString (method.tag ++ " (") ++ name ++ Bytes.ofString ") = "
          ++ digits method bytes ++ [ending])
      else
        let mark := if given.last? ["b", "t"] = some "b" then ascii '*' else ascii ' '
        put (front ++ digits method bytes ++ 0x20 :: mark :: name ++ [ending])

/-- The fingerprint and the name that a line tells. -/
def lineParts? (method : Method) (line : Bytes) : Option (Bytes × Bytes) :=
  let line := line.dropWhile fun b => b = 0x20 || b = 0x09
  let (isEscaped, line) :=
    match line with
    | 0x5C :: rest => (true, rest)
    | line => (false, line)
  let isDigits (text : Bytes) : Bool :=
    text.length = 2 * method.size && text.all fun b => (Text.Ascii.hexDigit? b).isSome
  let named (sum name : Bytes) : Option (Bytes × Bytes) := do
    if !isDigits sum || name = [] then none
    let name ← if isEscaped then unescaped name else some name
    return (sum.map Text.Ascii.lower, name)
  match Text.afterBlock? (Bytes.ofString method.tag) line with
  | some rest =>
    let rest := if rest.head? = some 0x20 then rest.drop 1 else rest
    match rest with
    | 0x28 :: rest =>
      let behind := rest.reverse.takeWhile (· ≠ ascii ')')
      let name := (rest.take (rest.length - behind.length)).dropLast
      let sum := (behind.reverse.dropWhile fun b => b = 0x20 || b = ascii '=')
      if behind.length = rest.length then none else named sum name
    | _ => none
  | none =>
    let sum := line.take (2 * method.size)
    match line.drop sum.length with
    | 0x20 :: 0x20 :: name | 0x20 :: 0x2A :: name => named sum name
    | 0x20 :: name => named sum name
    | _ => none

/-- How many lines were found not to be right, and in what way. -/
structure Tally where
  proper : Nat
  misformed : Nat
  unreadable : Nat
  mismatched : Nat
  matched : Nat

/-- Checks the file that a line names. -/
def checkLine (method : Method) (given : Given) (sum name : Bytes) (tally : Tally) :
    Tool Tally := do
  let isSilent := given.has "status"
  let tally := { tally with proper := tally.proper + 1 }
  let (shown, isEscaped) := escaped name
  let shown := if isEscaped then ascii '\\' :: shown else shown
  let unreadable (fault : Fault) : Tool Tally := do
    if given.has "missing" && fault = .notFound then return tally
    warn (Quotation.shown name ++ Bytes.ofString (": " ++ fault.reason))
    if !isSilent then putLine (shown ++ Bytes.ofString ": FAILED open or read")
    return { tally with unreadable := tally.unreadable + 1 }
  match ← openInput name with
  | .error fault => unreadable fault
  | .ok descriptor =>
    let result ← readAll descriptor
    closeInput descriptor
    match result with
    | .error fault => unreadable fault
    | .ok bytes =>
      if digits method bytes = sum then
        if !isSilent && !given.has "quiet" then putLine (shown ++ Bytes.ofString ": OK")
        return { tally with matched := tally.matched + 1 }
      else
        if !isSilent then putLine (shown ++ Bytes.ofString ": FAILED")
        return { tally with mismatched := tally.mismatched + 1 }

/-- A warning about some of the lines. -/
def warnOf (count : Nat) (one several : String) : Tool Unit := do
  if count ≠ 0 then
    flush
    let words := if count = 1 then one else several
    warn (Bytes.ofString s!"WARNING: {count} {words}")

/-- Checks files against a list of fingerprints. -/
def checkList (method : Method) (given : Given) (path : Bytes) (bytes : Bytes) : Tool Unit := do
  let name := if path = [ascii '-'] then Bytes.ofString "'standard input'" else Quotation.shown path
  let pieces := Text.splitAt 0x0A bytes
  let lines := if pieces.getLast? = some [] then pieces.dropLast else pieces
  let mut tally : Tally := ⟨0, 0, 0, 0, 0⟩
  for (line, place) in lines.zipIdx do
    let line := if line.getLast? = some 0x0D then line.dropLast else line
    if line.head? ≠ some (ascii '#') && line ≠ [] then
      match lineParts? method line with
      | some (sum, name) => tally ← checkLine method given sum name tally
      | none =>
        tally := { tally with misformed := tally.misformed + 1 }
        if given.has "w" then
          warn (name ++ Bytes.ofString s!": {place + 1}: improperly formatted {method.tag} "
            ++ Bytes.ofString "checksum line")
  if tally.proper = 0 then
    complain (name ++ Bytes.ofString ": no properly formatted checksum lines found")
  else
    if !given.has "status" then
      warnOf tally.misformed "line is improperly formatted" "lines are improperly formatted"
      warnOf tally.unreadable "listed file could not be read" "listed files could not be read"
      warnOf tally.mismatched "computed checksum did NOT match" "computed checksums did NOT match"
      if given.has "missing" && tally.matched = 0 then
        complain (name ++ Bytes.ofString ": no file was verified")
    if tally.unreadable ≠ 0 || tally.mismatched ≠ 0
        || (given.has "strict" && tally.misformed ≠ 0)
        || (given.has "missing" && tally.matched = 0) then
      setCode 1

def forms : List Form :=
  [toggle "b" ["binary"], toggle "t" ["text"], toggle "c" ["check"], toggle "tag" ["tag"],
    toggle "z" ["zero"], toggle "missing" ["ignore-missing"], toggle "quiet" ["quiet"],
    toggle "status" ["status"], toggle "strict" ["strict"], toggle "w" ["warn"]]

/-- Tells or checks fingerprints. -/
def run (method : Method) (arguments : List Bytes) : Tool Unit := do
  let given ← options forms arguments 1
  if given.has "c" then
    forInputs given.operands fun path descriptor => do
      match ← readAll descriptor with
      | .error fault => complainOf path fault
      | .ok bytes => checkList method given path bytes
  else
    let only := [("missing", "ignore-missing"), ("quiet", "quiet"), ("status", "status"),
      ("strict", "strict"), ("w", "warn")]
    match only.find? fun (key, _) => given.has key with
    | some (_, long) =>
      misuse 1 (Bytes.ofString ("the --" ++ long
        ++ " option is meaningful only when verifying checksums"))
    | none => tell method given

/-- Tells the remainders of files, each as of one long number, and how many bytes they have. -/
def remainders (arguments : List Bytes) : Tool Unit := do
  let given ← options [] arguments 1
  forInputs given.operands fun path descriptor => do
    match ← readAll descriptor with
    | .error fault => complainOf path fault
    | .ok bytes =>
      let numbers := Bytes.ofString s!"{(Fingerprint.remainder bytes).toNat} {bytes.length}"
      putLine (if given.operands.isEmpty then numbers else numbers ++ 0x20 :: path)

end ChangelogSql.Utility.Checksum
