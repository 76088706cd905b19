import ChangelogSql.CommandLine.Arguments
import ChangelogSql.Text.Terminal

/-!
What is said about the arguments themselves: the help, the version, and why
arguments were refused.
-/

namespace ChangelogSql.CommandLine

/-- A role of a piece of text, which decides how it is set off where colours are wanted. -/
inductive Role where
  | plain
  | error
  | heading
  | literal
  | valid
  | invalid
  deriving DecidableEq

/-- The sequence that sets off a role. -/
def Role.start : Role → String
  | .plain => ""
  | .error => "\x1b[1m\x1b[31m"
  | .heading => "\x1b[1m\x1b[4m"
  | .literal => "\x1b[1m"
  | .valid => "\x1b[32m"
  | .invalid => "\x1b[33m"

/-- A text in pieces, each with its role. -/
abbrev Notice := List (Role × String)

/-- A text as it is printed. Where no colours are wanted, nothing in it is meant for a terminal. -/
def Notice.render (colored : Bool) (notice : Notice) : String :=
  if colored then
    String.join (notice.map fun (role, text) =>
      if role ≠ .plain then role.start ++ text ++ "\x1b[0m" else text)
  else Text.Unstyled.ofText (String.join (notice.map Prod.snd))

/-- The name of the program. -/
def programName : String :=
  "liquiconv"

def versionNumber : String :=
  "0.1.0"

/-- A name with its dashes. -/
def Known.flag (known : Known) : String :=
  "--" ++ known.name

/-- What stands for the value of a setting. -/
def placeholder : String :=
  "<PATH>"

/-- A setting with its value, as one text. -/
def Setting.shown (setting : Setting) : String :=
  (Known.setting setting).flag ++ " " ++ placeholder

namespace Notice

/-- How the program is called, with the names that were used or else with any options. -/
def usage (used : List Known) : Notice :=
  let names : Notice :=
    match used with
    | [] => [(.plain, " [OPTIONS]")]
    | _ => used.flatMap fun known =>
      match known with
      | .setting _ => [(.plain, " "), (.literal, known.flag), (.plain, " " ++ placeholder)]
      | .inquiry _ => [(.plain, " "), (.literal, known.flag)]
  [(Role.heading, "Usage:"), (.plain, " "), (.literal, programName)] ++ names

/-- The settings, of which any one can be given. -/
def anySetting : Notice :=
  let settings := Known.all.filterMap fun known =>
    match known with
    | .setting setting => some setting.shown
    | .inquiry _ => none
  [(.plain, " <" ++ "|".intercalate settings ++ ">")]

/-- The version of the program. -/
def version : Notice :=
  [(.plain, programName ++ " " ++ versionNumber ++ "\n")]

/-- What the program does and how it is called. -/
def help : Notice :=
  [(.plain, "Convert every Liquibase XML changelog in a git checkout to MySQL SQL\n\n")]
    ++ usage []
    ++ [(.plain, "\n\n"), (.heading, "Options:"), (.plain, "\n      "), (.literal, "--root"),
      (.plain, " <PATH>  Root of the tree to scan (defaults to the current directory)\n  "),
      (.literal, "-h"), (.plain, ", "), (.literal, "--help"), (.plain, "         Print help\n  "),
      (.literal, "-V"), (.plain, ", "), (.literal, "--version"),
      (.plain, "      Print version\n")]

/-- Why arguments were refused. -/
def reason : Refusal → Notice
  | .unexpected argument _ _ =>
    [(.plain, "unexpected argument '"), (.invalid, argument), (.plain, "' found")]
  | .missingValue setting =>
    [(.plain, "a value is required for '"), (.invalid, setting.shown),
      (.plain, "' but none was supplied")]
  | .repeated setting =>
    [(.plain, "the argument '"), (.invalid, setting.shown),
      (.plain, "' cannot be used multiple times")]
  | .unexpectedValue value inquiry _ =>
    [(.plain, "unexpected value '"), (.invalid, value), (.plain, "' for '"),
      (.literal, (Known.inquiry inquiry).flag), (.plain, "' found; no more were expected")]

/-- What could be meant instead. -/
def tip : Refusal → Notice
  | .unexpected _ (some known) _ =>
    [(.plain, "\n\n  "), (.valid, "tip:"), (.plain, " a similar argument exists: '"),
      (.valid, known.flag), (.plain, "'")]
  | _ => []

/-- How the program could have been called. -/
def usageFor : Refusal → Notice
  | .unexpected _ _ used => (.plain, "\n\n") :: usage used
  | .unexpectedValue _ inquiry anySettled =>
    (.plain, "\n\n") :: usage [.inquiry inquiry] ++ (if anySettled then anySetting else [])
  | .repeated _ => (.plain, "\n\n") :: usage []
  | .missingValue _ => []

/-- The whole text of a refusal. -/
def refusal (refusal : Refusal) : Notice :=
  [(Role.error, "error:"), (.plain, " ")] ++ reason refusal ++ tip refusal ++ usageFor refusal
    ++ [(.plain, "\n\nFor more information, try '"), (.literal, "--help"), (.plain, "'.\n")]

end Notice

end ChangelogSql.CommandLine
