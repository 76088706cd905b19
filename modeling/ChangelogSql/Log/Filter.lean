import ChangelogSql.Log.Record
import ChangelogSql.Regular.Meaning

/-!
Which records are shown. A filter is a list of directives, each with a level and
the beginning of an origin's name or for all origins; of the directives that fit
an origin the one with the longest beginning decides. Beside them a filter can
have an expression that must occur in the text of a record.
-/

namespace ChangelogSql.Log

/-- A part of a filter's text that spells nothing, a text with too many separators, or an expression
that is none. -/
inductive FilterFault where
  | unknown (part : String)
  | divided (text : String)
  | expression (refusal : Regular.Refusal)
  deriving DecidableEq

/-- The least important level that is shown, or none at all. -/
abbrev Threshold := Option Level

/-- What is shown of the origins whose names begin with `origin?`, or of all. -/
structure Directive where
  origin? : Option String
  threshold : Threshold
  deriving DecidableEq

/-- Directives, the decisive ones last, and an expression for the texts of records. -/
structure Filter where
  directives : List Directive
  required? : Option Regular.Expression

/-- The threshold that a word names, in capital letters or not. -/
def threshold? (word : String) : Option Threshold :=
  let word := word.map Char.toUpper
  if word = "OFF" then some none
  else ([Level.error, .warn, .info, .debug, .trace].find? fun level => level.name = word).map some

namespace Directive

/-- The directive a text spells, or the part of it that spells none. A level alone holds for all
origins, and an origin alone shows everything. -/
def ofText (text : List Char) : Except FilterFault Directive :=
  match Text.splitAt '=' text with
  | [word] =>
    match threshold? (String.ofList word) with
    | some threshold => .ok ⟨none, threshold⟩
    | none => .ok ⟨some (String.ofList word), some .trace⟩
  | [origin, word] =>
    let origin := some (String.ofList origin)
    let word := String.ofList (Text.trimmed word)
    if word = "" then .ok ⟨origin, some .trace⟩
    else
      match threshold? word with
      | some threshold => .ok ⟨origin, threshold⟩
      | none => .error (.unknown word)
  | _ => .error (.unknown (String.ofList text))

/-- How long the beginning is that a directive asks for. -/
def width (directive : Directive) : Nat :=
  (directive.origin?.map String.utf8ByteSize).getD 0

/-- A directive holds for an origin. -/
def fits (directive : Directive) (origin : String) : Bool :=
  directive.origin?.all fun wanted => wanted.toList.isPrefixOf origin.toList

/-- A directive lets a level through. -/
def admits (directive : Directive) (level : Level) : Bool :=
  match directive.threshold with
  | none => false
  | some threshold => level.rank ≤ threshold.rank

end Directive

namespace Filter

/-- The directives with one more, which takes the place of one for the same origins. -/
def add (directives : List Directive) (directive : Directive) : List Directive :=
  if directives.any fun other => other.origin? = directive.origin? then
    directives.map fun other => if other.origin? = directive.origin? then directive else other
  else directives ++ [directive]

/-- What is shown where nothing is spelled: errors. -/
def standard : List Directive :=
  [⟨none, some .error⟩]

/-- The directives that a text spells, with its parts that spell none. Those with longer beginnings
come later. -/
def readDirectives (specification : List Char) : List Directive × List FilterFault :=
  let parts := ((Text.splitAt ',' specification).map Text.trimmed).filter (· ≠ [])
  let readings := parts.map Directive.ofText
  let found := readings.foldl
    (fun found reading =>
      match reading with
      | .ok directive => add found directive
      | .error _ => found)
    []
  let faults := readings.filterMap fun
    | .ok _ => none
    | .error fault => some fault
  let sorted := found.mergeSort fun directive other => directive.width ≤ other.width
  (if sorted = [] then standard else sorted, faults)

/-- The filter a text spells, with what is wrong with it. -/
def ofText (text : String) : Filter × List FilterFault :=
  match Text.splitAt '/' text.toList with
  | [specification] =>
    let (directives, faults) := readDirectives specification
    (⟨directives, none⟩, faults)
  | [specification, expression] =>
    let (directives, faults) := readDirectives specification
    match Regular.Expression.ofText expression with
    | .ok expression => (⟨directives, some expression⟩, faults)
    | .error refusal => (⟨directives, none⟩, faults ++ [.expression refusal])
  | _ => (⟨standard, none⟩, [.divided text])

/-- The directive that decides about an origin: the last that fits it. -/
def deciding? (filter : Filter) (origin : String) : Option Directive :=
  filter.directives.reverse.find? (·.fits origin)

/-- A text has what the filter asks for. -/
def accepts (filter : Filter) (text : String) : Bool :=
  filter.required?.all fun expression =>
    expression.occursIn (text.toList.map Char.toNat).toArray

/-- A record is shown. -/
def shows (filter : Filter) (record : Record) : Bool :=
  ((filter.deciding? record.origin.name).any (·.admits record.level))
    && filter.accepts record.text

end Filter

/-- What is wrong with a filter's text. -/
def FilterFault.message : FilterFault → String
  | .unknown part => "invalid logging spec '" ++ part ++ "'"
  | .divided text => "invalid logging spec '" ++ text ++ "' (too many '/'s)"
  | .expression refusal => "invalid regex filter - " ++ refusal.message

/-- The line that is shown for a fault in a filter's text. -/
def warning (fault : FilterFault) : String :=
  "warning: " ++ fault.message ++ ", ignoring it\n"

end ChangelogSql.Log
