import ChangelogSql.Text.Utf8

/-!
Shell scripts as trees. A word is a list of parts, and each part knows whether
it stood in quotes: what comes of a quoted part is never split and never
matched against file names.
-/

namespace ChangelogSql.Shell

/-- What a `$` refers to. -/
inductive Parameter where
  /-- A variable. -/
  | variable (name : Bytes)
  /-- An argument by its number; number 0 is the name of the script. -/
  | argument (number : Nat)
  /-- All arguments, each a field of its own when quoted. -/
  | each
  /-- All arguments, one field when quoted. -/
  | all
  /-- How many arguments there are. -/
  | count
  /-- The status of the last command. -/
  | status
  /-- The number of the process. -/
  | process
  /-- The number of the last process that was not waited for. -/
  | background
  /-- The options that are set. -/
  | options
  deriving DecidableEq

/-- The end of a value from which something is taken away. -/
inductive Side where
  | front
  | back
  deriving DecidableEq

/-- What is done when a value is missing. -/
inductive Fallback where
  | use
  | assign
  | complain
  deriving DecidableEq

/-- A way of opening a file. -/
inductive Mode where
  | input
  | output
  /-- Output that takes the place of a file even where files are protected. -/
  | force
  | append
  | both
  deriving DecidableEq

mutual

/-- A piece of a word. -/
inductive Part where
  | text (quoted : Bool) (bytes : Bytes)
  /-- A quotation stands here; it makes a field even if there is nothing in it. -/
  | mark
  | parameter (quoted : Bool) (parameter : Parameter) (treatment : Treatment)
  | output (quoted : Bool) (command : Option Command)
  | arithmetic (quoted : Bool) (expression : List Part)

/-- What is made of the value of a parameter. -/
inductive Treatment where
  | value
  | length
  /-- The value without what a pattern matches at one side. -/
  | without (side : Side) (longest : Bool) (pattern : List Part)
  /-- The value, or something else where it is missing; `orEmpty` counts an empty one as missing. -/
  | unless (orEmpty : Bool) (fallback : Fallback) (word : List Part)
  /-- A word where the value is there. -/
  | provided (orEmpty : Bool) (word : List Part)
  /-- Nothing that could be understood. -/
  | bad

/-- A change of what a descriptor stands for. -/
inductive Redirection where
  | file (descriptor : Nat) (mode : Mode) (path : List Part)
  | same (descriptor : Nat) (source : List Part)
  /-- The input is a text that stands in the script itself, known by its number. -/
  | document (descriptor : Nat) (number : Nat)

/-- A command. Those that can go wrong by themselves know their line. -/
inductive Command where
  | simple (line : Nat) (assignments : List (Bytes × List Part)) (words : List (List Part))
    (redirections : List Redirection)
  | redirected (line : Nat) (command : Command) (redirections : List Redirection)
  | pipeline (commands : List Command) (isBackground : Bool)
  | background (line : Nat) (command : Command) (redirections : List Redirection)
  | subshell (line : Nat) (command : Command) (redirections : List Redirection)
  | negated (command : Command)
  | both (first second : Command)
  | either (first second : Command)
  | sequence (first second : Command)
  | choice (condition consequence : Command) (otherwise : Option Command)
  /-- Goes round as long as the condition succeeds, or fails where `untilSuccess` is set. -/
  | loop (untilSuccess : Bool) (condition body : Command)
  /-- Goes round once for each word. -/
  | iterate (line : Nat) (name : Bytes) (words : List (List Part)) (body : Command)
  | select (line : Nat) (word : List Part)
    (branches : List (List (List Part) × Option Command))
  /-- Gives a command a name under which it can be called. -/
  | define (line : Nat) (name : Bytes) (body : Command)

end

/-- A word. -/
abbrev Word := List Part

instance : Inhabited Command := ⟨.simple 0 [] [] []⟩

/-- Why a script cannot be read on, and the line where that shows. -/
structure Complaint where
  line : Nat
  text : String
  deriving DecidableEq

end ChangelogSql.Shell
