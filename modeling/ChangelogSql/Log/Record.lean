import ChangelogSql.Text.Terminal

/-!
Records of what a run is doing, for those who follow it closely. Each has a
level, the part of the program it comes from, and a text.
-/

namespace ChangelogSql

/-- How much a record matters, the most first. -/
inductive Level where
  | error
  | warn
  | info
  | debug
  | trace
  deriving DecidableEq

namespace Level

/-- The place of a level in the order, the most important first. -/
def rank : Level → Nat
  | .error => 1
  | .warn => 2
  | .info => 3
  | .debug => 4
  | .trace => 5

def name : Level → String
  | .error => "ERROR"
  | .warn => "WARN"
  | .info => "INFO"
  | .debug => "DEBUG"
  | .trace => "TRACE"

end Level

/-- The parts of the program that leave records. -/
inductive Origin where
  | program
  | guard
  | discovery
  | resolution
  | jars
  | run
  | commands
  deriving DecidableEq

/-- The name by which a record's origin is selected and shown. -/
def Origin.name : Origin → String
  | .program => "liquiconv"
  | .guard => "liquiconv::guard"
  | .discovery => "liquiconv::finder"
  | .resolution => "liquiconv::resolver"
  | .jars => "liquiconv::artifact"
  | .run => "liquiconv::pipeline"
  | .commands => "liquiconv_command_runner"

/-- A record. -/
structure Record where
  level : Level
  origin : Origin
  text : String
  deriving DecidableEq

namespace Record

def debug (origin : Origin) (text : String) : Record :=
  ⟨.debug, origin, text⟩

def warn (origin : Origin) (text : String) : Record :=
  ⟨.warn, origin, text⟩

/-- A record without its origin, as it is listed. -/
def brief (record : Record) : String :=
  record.level.name ++ " " ++ record.text

end Record

end ChangelogSql

/-!
Records as lines: when, how important, where from, and the text. Where colours
are wanted the levels are told apart by them; where they are not, no sequences
for a terminal are left in the text either.
-/

namespace ChangelogSql.Log

/-- A level's name made as wide as the longest. -/
def padded (level : Level) : String :=
  String.ofList (level.name.toList ++ List.replicate (5 - level.name.length) ' ')

/-- The sequence that sets off a level. -/
def style : Level → String
  | .error => "\x1b[1m\x1b[31m"
  | .warn => "\x1b[33m"
  | .info => "\x1b[32m"
  | .debug => "\x1b[34m"
  | .trace => "\x1b[36m"

/-- A text set off by a sequence. -/
def styled (start text : String) : String :=
  start ++ text ++ "\x1b[0m"

/-- The sequence that sets off the brackets. -/
def faint : String :=
  "\x1b[90m"

/-- A record as a line, or as several the further ones of which are set in. -/
def line (colored : Bool) (clock : String) (record : Record) : String :=
  let text := String.ofList
    (record.text.toList.flatMap fun c => if c = '\n' then "\n    ".toList else [c])
  let origin := " " ++ record.origin.name
  if colored then
    styled faint "[" ++ clock ++ " " ++ styled (style record.level) (padded record.level) ++ origin
      ++ styled faint "]" ++ " " ++ text ++ "\n"
  else
    Text.Unstyled.ofText
      ("[" ++ clock ++ " " ++ padded record.level ++ origin ++ "] " ++ text ++ "\n")

end ChangelogSql.Log
