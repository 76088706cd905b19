import ChangelogSql.Text.Search

/-!
Replacing paths that differ from run to run by labels, so that outputs of
different runs can be compared.
-/

namespace ChangelogSql.Sandbox

/-- A text that stands for a place, and the label that is shown instead. -/
structure Redaction where
  text : List Char
  label : List Char
  deriving DecidableEq

namespace Redaction

/-- A text with every redaction applied, one after the other. -/
def applyAll (redactions : List Redaction) (text : List Char) : List Char :=
  redactions.foldl
    (fun text redaction => Text.replaceAll redaction.text redaction.label text) text

end Redaction

/-- The label of the work tree. -/
def workLabel : String :=
  "<root>"

/-- The label of the directory for passing files. -/
def tmpLabel : String :=
  "<tmp>"

/-- A directory's canonical path, where it has one, and its path as it was made, under one label. -/
def redactionsOf (canonical? : Option String) (made label : String) : List Redaction :=
  (canonical?.toList ++ [made]).map fun text => ⟨text.toList, label.toList⟩

/-- The redactions of a work tree and a directory for passing files, in this order. -/
def redactions (canonicalWork? : Option String) (work : String) (canonicalTmp? : Option String)
    (tmp : String) : List Redaction :=
  redactionsOf canonicalWork? work workLabel ++ redactionsOf canonicalTmp? tmp tmpLabel

end ChangelogSql.Sandbox
