import ChangelogSql.Utility.Basic

/-!
The options of programs: letters behind a dash, several in one word, and words
behind two dashes, which can be shortened as long as they are not ambiguous.
-/

namespace ChangelogSql.Utility

open Text (ascii)

/-- What belongs to an option. -/
inductive Takes where
  | nothing
  | value
  /-- A value in the same word, or none. -/
  | perhaps
  deriving DecidableEq

/-- An option that a program knows. A key of one character is also its letter. -/
structure Form where
  key : String
  longs : List String
  takes : Takes

/-- An option without a value. -/
def toggle (key : String) (longs : List String := []) : Form := ⟨key, longs, .nothing⟩

/-- An option with a value. -/
def setting (key : String) (longs : List String := []) : Form := ⟨key, longs, .value⟩

/-- What options and operands there are, in their order. -/
structure Given where
  options : List (String × Option Bytes)
  operands : List Bytes

namespace Given

/-- An option was given. -/
def has (given : Given) (key : String) : Bool :=
  given.options.any (·.1 = key)

/-- The value of an option that was given last. -/
def value? (given : Given) (key : String) : Option Bytes :=
  ((given.options.filter (·.1 = key)).getLast?).bind Prod.snd

/-- The one of some options that was given last. -/
def last? (given : Given) (keys : List String) : Option String :=
  ((given.options.filter fun entry => keys.contains entry.1).getLast?).map Prod.fst

def addOption (given : Given) (key : String) (value? : Option Bytes) : Given :=
  { given with options := (key, value?) :: given.options }

def addOperand (given : Given) (operand : Bytes) : Given :=
  { given with operands := operand :: given.operands }

end Given

namespace Options

/-- Why options cannot be understood. -/
abbrev Refusal := Bytes

/-- A text in single quotes, behind the words of a complaint. -/
def about (words : String) (text : Bytes) (rest : String) : Refusal :=
  Bytes.ofString (words ++ " '") ++ text ++ Bytes.ofString ("'" ++ rest)

/-- The form of a letter. -/
def short? (forms : List Form) (letter : UInt8) : Option Form :=
  forms.find? fun form => Bytes.ofString form.key = [letter]

/-- The options that a row of letters gives; the next word can be the value of the last one. -/
def letters (forms : List Form) : Bytes → List Bytes → Given → Except Refusal (Given × List Bytes)
  | [], rest, given => .ok (given, rest)
  | letter :: others, rest, given =>
    match short? forms letter with
    | none => .error (about "invalid option --" [letter] "")
    | some form =>
      match form.takes with
      | .nothing => letters forms others rest (given.addOption form.key none)
      | .perhaps =>
        .ok (given.addOption form.key (if others = [] then none else some others), rest)
      | .value =>
        if others ≠ [] then .ok (given.addOption form.key (some others), rest)
        else
          match rest with
          | value :: rest => .ok (given.addOption form.key (some value), rest)
          | [] => .error (about "option requires an argument --" [letter] "")

/-- The option that a word behind two dashes gives. -/
def word (forms : List Form) (text : Bytes) (rest : List Bytes) (given : Given) :
    Except Refusal (Given × List Bytes) :=
  let name := text.takeWhile (· ≠ ascii '=')
  let value? :=
    match text.drop name.length with
    | [] => none
    | _ :: value => some value
  let longs := forms.flatMap fun form => form.longs.map fun long => (Bytes.ofString long, form)
  let fitting := longs.filter fun entry => name.isPrefixOf entry.1
  let found? :=
    match fitting.find? fun entry => entry.1 = name with
    | some entry => some entry
    | none =>
      match fitting with
      | [] => none
      | entry :: others =>
        if others.all fun other => other.2.key = entry.2.key then some entry else none
  match found? with
  | none =>
    if fitting = [] then .error (about "unrecognized option" (Bytes.ofString "--" ++ text) "")
    else
      let names := fitting.map fun entry => Bytes.ofString " '--" ++ entry.1 ++ [ascii '\'']
      .error (about "option" (Bytes.ofString "--" ++ text) " is ambiguous; possibilities:"
        ++ names.flatten)
  | some (long, form) =>
    let shown := Bytes.ofString "--" ++ long
    match form.takes, value? with
    | .nothing, some _ => .error (about "option" shown " doesn't allow an argument")
    | .nothing, none => .ok (given.addOption form.key none, rest)
    | .perhaps, value? => .ok (given.addOption form.key value?, rest)
    | .value, some value => .ok (given.addOption form.key (some value), rest)
    | .value, none =>
      match rest with
      | value :: rest => .ok (given.addOption form.key (some value), rest)
      | [] => .error (about "option" shown " requires an argument")

/-- Reads words. Where `mixed` is not set, everything from the first operand on is an operand. -/
def read (forms : List Form) (mixed : Bool) : Nat → List Bytes → Given → Except Refusal Given
  | 0, _, given => .ok given
  | _, [], given => .ok given
  | fuel + 1, argument :: rest, given =>
    match argument with
    | [0x2D, 0x2D] => .ok { given with operands := rest.reverse ++ given.operands }
    | 0x2D :: 0x2D :: text => do
      let (given, rest) ← word forms text rest given
      read forms mixed fuel rest given
    | 0x2D :: letter :: others => do
      let (given, rest) ← letters forms (letter :: others) rest given
      read forms mixed fuel rest given
    | operand =>
      if mixed then read forms mixed fuel rest (given.addOperand operand)
      else .ok { given with operands := (operand :: rest).reverse ++ given.operands }

/-- The options and operands among arguments. -/
def ofArguments (forms : List Form) (mixed : Bool) (arguments : List Bytes) :
    Except Refusal Given :=
  (read forms mixed (arguments.length + 1) arguments ⟨[], []⟩).map fun given =>
    ⟨given.options.reverse, given.operands.reverse⟩

end Options

namespace Tool

/-- The options and operands among arguments; a program that is not called rightly ends. -/
def options (forms : List Form) (arguments : List Bytes) (code : UInt8) : Tool Given := do
  match Options.ofArguments forms true arguments with
  | .ok given => return given
  | .error refusal => misuse code refusal

/-- The options up to the first operand, and everything behind them. -/
def leadingOptions (forms : List Form) (arguments : List Bytes) (code : UInt8) : Tool Given := do
  match Options.ofArguments forms false arguments with
  | .ok given => return given
  | .error refusal => misuse code refusal

end Tool

end ChangelogSql.Utility
