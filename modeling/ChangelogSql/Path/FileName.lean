import ChangelogSql.Path.Ancestors

/-!
The last component of a path, taken apart at its last dot. A name that only
begins with a dot has no extension: the dot belongs to its stem.
-/

namespace ChangelogSql.Path

/-- The byte between a stem and an extension. -/
def dot : UInt8 := 0x2E

/-- The last component, where it is a name and not `..` or an anchor. -/
def fileName? (path : Path) : Option Bytes :=
  match path.components.getLast? with
  | some (.normal name) => some name
  | _ => none

/-- A file name cut at its last dot: what stands before the dot, and what stands after it. A name
without a dot, or with its only dot in front, is all stem. -/
def cutAtLastDot (name : Bytes) : Bytes × Option Bytes :=
  let tail := name.reverse.takeWhile (· ≠ dot)
  match name.reverse.dropWhile (· ≠ dot) with
  | [] => (name, none)
  | [_] => (name, none)
  | _ :: stem => (stem.reverse, some tail.reverse)

/-- The file name without its extension. -/
def stem? (path : Path) : Option Bytes :=
  path.fileName?.map fun name => (cutAtLastDot name).1

/-- The part of the file name after its last dot. -/
def extension? (path : Path) : Option Bytes :=
  path.fileName?.bind fun name => (cutAtLastDot name).2

/-- The path up to the end of its stem, and `.extension` after that. A path without a file name
stays as it is. -/
def setExtension (path : Path) (extension : Bytes) : Path :=
  match path.stem? with
  | none => path
  | some stem =>
    let parts := path.parts
    let segments := (trimRight parts.segments).dropLast ++ [stem ++ dot :: extension]
    ofParts { parts with segments := segments }

/-- The path with its extension replaced. As many bytes as the old extension has are cut from the
end of the text before the new one is set on what is left, so a name such as `..xml` loses its
extension and gets none. -/
def withExtension (path : Path) (extension : Bytes) : Path :=
  match path.extension? with
  | none => path.setExtension extension
  | some old => setExtension ⟨path.bytes.take (path.bytes.length - old.length)⟩ extension

end ChangelogSql.Path
