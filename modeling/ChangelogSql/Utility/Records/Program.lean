import ChangelogSql.Utility.Records.Matcher
import ChangelogSql.Utility.Records.Value

/-!
Programs that say what is done with records: rules with patterns and actions,
and functions. Names have been replaced by the places of what they stand for.
-/

namespace ChangelogSql.Utility.Records

open Numeral

/-- Where a variable stands. -/
inductive Place where
  | global (index : Nat)
  | parameter (index : Nat)
  deriving DecidableEq, Inhabited

/-- The functions that every program knows. -/
inductive Builtin where
  | length
  | index
  | substr
  | split
  | sprintf
  | sub
  | gsub
  | matchAt
  | toUpper
  | toLower
  | sin
  | cos
  | atan2
  | exp
  | log
  | sqrt
  | int
  | rand
  | srand
  | system
  | close
  | flush
  | time
  | date
  deriving DecidableEq, Inhabited

namespace Builtin

/-- The functions by their names. -/
def names : List (String × Builtin) :=
  [("length", .length), ("index", .index), ("substr", .substr), ("split", .split),
    ("sprintf", .sprintf), ("sub", .sub), ("gsub", .gsub), ("match", .matchAt),
    ("toupper", .toUpper), ("tolower", .toLower), ("sin", .sin), ("cos", .cos),
    ("atan2", .atan2), ("exp", .exp), ("log", .log), ("sqrt", .sqrt), ("int", .int),
    ("rand", .rand), ("srand", .srand), ("system", .system), ("close", .close),
    ("fflush", .flush), ("systime", .time), ("strftime", .date)]

/-- How many arguments a function takes. -/
def bounds : Builtin → Nat × Nat
  | .length => (0, 1)
  | .index => (2, 2)
  | .substr => (2, 3)
  | .split => (2, 3)
  | .sprintf => (1, 255)
  | .sub | .gsub => (2, 3)
  | .matchAt => (2, 2)
  | .atan2 => (2, 2)
  | .rand | .time => (0, 0)
  | .srand => (0, 1)
  | .close => (1, 1)
  | .flush => (0, 1)
  | .date => (0, 3)
  | _ => (1, 1)

/-- The name of a function. -/
def name (builtin : Builtin) : String :=
  ((names.find? fun entry => entry.2 = builtin).map Prod.fst).getD ""

end Builtin

/-- What has a value. -/
inductive Term where
  | real (number : Binary)
  | text (bytes : Bytes)
  | matcher (matcher : Matcher)
  | variable (place : Place)
  | element (place : Place) (subscripts : List Term)
  | field (number : Term)
  | grouped (inner : Term)
  | assign (target value : Term)
  | update (arithmetic : Arithmetic) (target value : Term)
  /-- A target goes up or down by one; the value is the one before or after that. -/
  | step (isAfter : Bool) (arithmetic : Arithmetic) (target : Term)
  | calculate (arithmetic : Arithmetic) (first second : Term)
  | signed (isNegative : Bool) (operand : Term)
  | opposite (operand : Term)
  | compare (comparison : Comparison) (first second : Term)
  | join (first second : Term)
  | both (first second : Term)
  | either (first second : Term)
  | choose (condition first second : Term)
  | isLike (isNegated : Bool) (subject pattern : Term)
  | isKey (subscripts : List Term) (place : Place)
  | call (function : Nat) (arguments : List Term)
  | apply (builtin : Builtin) (arguments : List Term)
  /-- Reads the next record of the input. -/
  | readNext (target? : Option Term)
  | readFile (name : Term) (target? : Option Term)
  | readCommand (command : Term) (target? : Option Term)
  deriving Inhabited

/-- Where something is put out. -/
inductive Channel where
  | file
  | extension
  | command
  deriving DecidableEq

/-- What is done. -/
inductive Statement where
  | evaluate (term : Term)
  | print (isFormatted : Bool) (arguments : List Term) (target? : Option (Channel × Term))
  | block (statements : List Statement)
  | choose (condition : Term) (first : Statement) (second? : Option Statement)
  | loop (condition : Term) (body : Statement)
  | loopAfter (body : Statement) (condition : Term)
  | count (start : Statement) (condition? : Option Term) (step body : Statement)
  | forKeys (target : Term) (place : Place) (body : Statement)
  | next
  | nextFile
  | exit (code? : Option Term)
  | leave (value? : Option Term)
  | stop
  | goOn
  | clear (place : Place)
  | erase (place : Place) (subscripts : List Term)
  deriving Inhabited

/-- When something is done with a record. -/
inductive Pattern where
  | always
  | when (condition : Term)
  /-- From a record to another one; each range has a number. -/
  | between (number : Nat) (first last : Term)
  deriving Inhabited

/-- What is done with the records of a pattern. -/
structure Rule where
  pattern : Pattern
  action : Statement
  deriving Inhabited

structure Function where
  parameters : Nat
  body : Statement
  deriving Inhabited

/-- A program. -/
structure Script where
  beginnings : List Statement
  rules : List Rule
  endings : List Statement
  functions : Array Function
  /-- The names of the variables that are not parameters. -/
  globals : Array Bytes
  ranges : Nat
  deriving Inhabited

/-- The variables that say how records are read and written, or what has been read. -/
inductive Special where
  | fieldCount
  | recordCount
  | fileRecordCount
  | fieldSeparator
  | outputSeparator
  | recordSeparator
  | outputEnd
  | fileName
  | keySeparator
  | matchStart
  | matchLength
  | keyFormat
  | outputFormat
  | environment
  | argumentCount
  | arguments
  deriving DecidableEq, Inhabited

namespace Special

/-- The variables by their names, in the order of their places. -/
def names : List (String × Special) :=
  [("NF", .fieldCount), ("NR", .recordCount), ("FNR", .fileRecordCount),
    ("FS", .fieldSeparator), ("OFS", .outputSeparator), ("RS", .recordSeparator),
    ("ORS", .outputEnd), ("FILENAME", .fileName), ("SUBSEP", .keySeparator),
    ("RSTART", .matchStart), ("RLENGTH", .matchLength), ("CONVFMT", .keyFormat),
    ("OFMT", .outputFormat), ("ENVIRON", .environment), ("ARGC", .argumentCount),
    ("ARGV", .arguments)]

/-- The place of a variable. -/
def index (special : Special) : Nat :=
  names.findIdx fun entry => entry.2 = special

/-- The variable that stands at a place. -/
def ofIndex? (index : Nat) : Option Special :=
  (names[index]?).map Prod.snd

end Special

end ChangelogSql.Utility.Records
