import ChangelogSql.Utility.Expression

/-!
Where a regular expression matches in a text. Of all places where it does, the
first one counts, and of all lengths there, the longest; groups stand where the
earliest of the possible choices puts them.
-/

namespace ChangelogSql.Utility.Expression

open Text (ascii)

/-- A step on the way to a match. -/
inductive Step where
  | take (set : ByteSet)
  | check (anchor : Anchor)
  | reference (number : Nat)
  | opened (number : Nat)
  | closed (number : Nat)
  /-- Goes on at one place or, if that leads nowhere, at another. -/
  | split (first second : Nat)
  | jump (place : Nat)
  | accept
  deriving DecidableEq, Inhabited

/-- An expression that is ready to be searched for. -/
structure Program where
  steps : Array Step
  groups : Nat
  hasReferences : Bool
  ignoresCase : Bool
  /-- Lines within a text have beginnings and ends of their own. -/
  hasLines : Bool

/-- How many steps an expression has at most. -/
def stepLimit : Nat := 200000

/-- The steps of a tree, which stand from a place on. -/
def stepsOf : Tree → Nat → Array Step
  | .empty, _ => #[]
  | .set set, _ => #[.take set]
  | .anchor anchor, _ => #[.check anchor]
  | .reference number, _ => #[.reference number]
  | .group number tree, place =>
    let inner := stepsOf tree (place + 1)
    #[.opened number] ++ inner ++ #[.closed number]
  | .sequence first second, place =>
    let front := stepsOf first place
    front ++ stepsOf second (place + front.size)
  | .either first second, place =>
    let front := stepsOf first (place + 1)
    let middle := place + 1 + front.size
    let back := stepsOf second (middle + 1)
    #[.split (place + 1) (middle + 1)] ++ front ++ #[.jump (middle + 1 + back.size)] ++ back
  | .times least most tree, place =>
    let copies := copiesOf (stepsOf tree) least place #[]
    match most with
    | none =>
      let here := place + copies.size
      let inner := stepsOf tree (here + 1)
      copies ++ #[.split (here + 1) (here + 2 + inner.size)] ++ inner ++ #[.jump here]
    | some most => optionalOf (stepsOf tree) (most - least) place copies
where
  /-- So many copies of something, behind what there is. -/
  copiesOf (inner : Nat → Array Step) : Nat → Nat → Array Step → Array Step
    | 0, _, before => before
    | count + 1, place, before =>
      if stepLimit < before.size then before
      else copiesOf inner count place (before ++ inner (place + before.size))
  /-- So many copies that can be missing, behind what there is. -/
  optionalOf (inner : Nat → Array Step) : Nat → Nat → Array Step → Array Step
    | 0, _, before => before
    | count + 1, place, before =>
      if stepLimit < before.size then before
      else
        let here := place + before.size
        let copy := inner (here + 1)
        let rest := optionalOf inner count (here + 1 + copy.size) #[]
        before ++ #[.split (here + 1) (here + 1 + copy.size + rest.size)] ++ copy ++ rest

/-- A tree refers to its groups. -/
def Tree.hasReferences : Tree → Bool
  | .reference _ => true
  | .group _ tree => tree.hasReferences
  | .sequence first second => first.hasReferences || second.hasReferences
  | .either first second => first.hasReferences || second.hasReferences
  | .times _ _ tree => tree.hasReferences
  | _ => false

/-- The program of an expression. -/
def Whole.program (whole : Whole) (ignoresCase hasLines : Bool) : Program where
  steps := (stepsOf whole.tree 0).push .accept
  groups := whole.groups
  hasReferences := whole.tree.hasReferences
  ignoresCase := ignoresCase
  hasLines := hasLines

/-- Where groups stand, the whole match first. -/
abbrev Groups := Array (Option (Nat × Nat))

/-- A match. -/
structure Match where
  start : Nat
  stop : Nat
  groups : Groups

namespace Program

/-- The byte at a place is a part of a word. -/
def isWordAt (text : ByteArray) (place : Nat) : Bool :=
  match text[place]? with
  | some b => Text.Ascii.isLetter b || Text.Ascii.isDigit b || b = ascii '_'
  | none => false

/-- What an anchor wants is so at a place. -/
def holdsAt (program : Program) (text : ByteArray) (place : Nat) (anchor : Anchor) : Bool :=
  let before := 0 < place && isWordAt text (place - 1)
  let here := isWordAt text place
  match anchor with
  | .lineStart =>
    place = 0 || (program.hasLines && text[place - 1]? = some 0x0A)
  | .lineEnd => place = text.size || (program.hasLines && text[place]? = some 0x0A)
  | .textStart => place = 0
  | .textEnd => place = text.size
  | .wordStart => !before && here
  | .wordEnd => before && !here
  | .boundary => before != here
  | .noBoundary => before = here

/-- A set takes the byte at a place. -/
def takes (program : Program) (set : ByteSet) (b : UInt8) : Bool :=
  if program.ignoresCase then set.containsEither b else set.contains b

/-- The steps that can come next are added to those that wait for a byte; `seen` are those that have
been gone through. -/
def reach (program : Program) (text : ByteArray) (place : Nat) :
    Nat → List Nat → Array Bool → List Nat → Array Bool × List Nat
  | 0, _, seen, waiting => (seen, waiting)
  | _, [], seen, waiting => (seen, waiting)
  | fuel + 1, step :: rest, seen, waiting =>
    if (seen[step]?).getD true then reach program text place fuel rest seen waiting
    else
      let seen := seen.setIfInBounds step true
      match program.steps[step]? with
      | none => reach program text place fuel rest seen waiting
      | some (.jump next) => reach program text place fuel (next :: rest) seen waiting
      | some (.split first second) =>
        reach program text place fuel (first :: second :: rest) seen waiting
      | some (.opened _) | some (.closed _) =>
        reach program text place fuel ((step + 1) :: rest) seen waiting
      | some (.check anchor) =>
        if program.holdsAt text place anchor then
          reach program text place fuel ((step + 1) :: rest) seen waiting
        else reach program text place fuel rest seen waiting
      | some (.reference _) => reach program text place fuel rest seen waiting
      | some (.take _) | some .accept =>
        reach program text place fuel rest seen (step :: waiting)

/-- The end of the longest match from a place on; `steps` can come next and `best?` is the end of the
longest match that has been found. -/
def longest (program : Program) (text : ByteArray) :
    Nat → Nat → List Nat → Option Nat → Option Nat
  | 0, _, _, best? => best?
  | fuel + 1, place, steps, best? =>
    let none' := Array.replicate program.steps.size false
    let (_, waiting) := program.reach text place (3 * program.steps.size + 3) steps none' []
    let best? :=
      if waiting.any fun step => program.steps[step]? = some .accept then some place else best?
    match text[place]? with
    | none => best?
    | some b =>
      let next : List Nat := waiting.filterMap fun step =>
        match program.steps[step]? with
        | some (Step.take set) => if program.takes set b then some (step + 1) else none
        | _ => none
      if next.isEmpty then best? else longest program text fuel (place + 1) next best?

/-- A way that has not been tried yet. -/
structure Way where
  step : Nat
  place : Nat
  groups : Groups

/-- The bytes of a group stand at a place. -/
def repeatsAt (program : Program) (text : ByteArray) (start stop place : Nat) : Bool :=
  let fold (b : UInt8) : UInt8 := if program.ignoresCase then Text.Ascii.lower b else b
  (List.range (stop - start)).all fun offset =>
    match text[start + offset]?, text[place + offset]? with
    | some b, some c => fold b = fold c
    | _, _ => false

/-- Tries ways in their order until one leads to a match that ends at `goal?`, or, where there is no
goal, all of them for the longest match. `seen` are the pairs of a step and a place that led
nowhere. -/
def explore (program : Program) (text : ByteArray) (goal? : Option Nat) :
    Nat → List Way → Array Bool → Option Way → Option Way
  | 0, _, _, best? => best?
  | _, [], _, best? => best?
  | fuel + 1, way :: rest, seen, best? =>
    let key := way.step * (text.size + 1) + way.place
    let tracks := !program.hasReferences
    if tracks && (seen[key]?).getD false then explore program text goal? fuel rest seen best?
    else
      let seen := if tracks then seen.setIfInBounds key true else seen
      match program.steps[way.step]? with
      | none => explore program text goal? fuel rest seen best?
      | some .accept =>
        match goal? with
        | some goal =>
          if way.place = goal then some way else explore program text goal? fuel rest seen best?
        | none =>
          let best? :=
            match best? with
            | some best => if best.place < way.place then some way else some best
            | none => some way
          explore program text goal? fuel rest seen best?
      | some (.jump next) =>
        explore program text goal? fuel ({ way with step := next } :: rest) seen best?
      | some (.split first second) =>
        explore program text goal? fuel
          ({ way with step := first } :: { way with step := second } :: rest) seen best?
      | some (.opened number) =>
        let groups := way.groups.setIfInBounds (2 * number) (some (way.place, way.place))
        explore program text goal? fuel ({ way with step := way.step + 1, groups } :: rest) seen
          best?
      | some (.closed number) =>
        let start := (((way.groups[2 * number]?).bind id).map Prod.fst).getD way.place
        let before? := (way.groups[2 * number + 1]?).bind id
        let groups :=
          if start = way.place && before?.isSome then way.groups
          else way.groups.setIfInBounds (2 * number + 1) (some (start, way.place))
        explore program text goal? fuel ({ way with step := way.step + 1, groups } :: rest) seen
          best?
      | some (.check anchor) =>
        if program.holdsAt text way.place anchor then
          explore program text goal? fuel ({ way with step := way.step + 1 } :: rest) seen best?
        else explore program text goal? fuel rest seen best?
      | some (.reference number) =>
        match (way.groups[2 * number + 1]?).bind id with
        | some (start, stop) =>
          if program.repeatsAt text start stop way.place then
            explore program text goal? fuel
              ({ way with step := way.step + 1, place := way.place + (stop - start) } :: rest) seen
              best?
          else explore program text goal? fuel rest seen best?
        | none => explore program text goal? fuel rest seen best?
      | some (.take set) =>
        match text[way.place]? with
        | some b =>
          if program.takes set b then
            explore program text goal? fuel
              ({ way with step := way.step + 1, place := way.place + 1 } :: rest) seen best?
          else explore program text goal? fuel rest seen best?
        | none => explore program text goal? fuel rest seen best?

/-- How many steps are tried at most where groups are referred to. -/
def patience : Nat := 2000000

/-- The match that begins at a place. -/
def matchAt (program : Program) (text : ByteArray) (start : Nat) : Option Match :=
  let groups : Groups := Array.replicate (2 * program.groups + 2) none
  let finish (way : Way) : Match :=
    let found := (List.range (program.groups + 1)).map fun number =>
      if number = 0 then some (start, way.place) else (way.groups[2 * number + 1]?).bind id
    ⟨start, way.place, found.toArray⟩
  if program.hasReferences then
    (program.explore text none patience [⟨0, start, groups⟩] #[] none).map finish
  else
    match program.longest text (text.size - start + 1) start [0] none with
    | none => none
    | some stop =>
      if program.groups = 0 then some ⟨start, stop, #[some (start, stop)]⟩
      else
        let size := program.steps.size * (text.size + 1)
        (program.explore text (some stop) (3 * size + 3) [⟨0, start, groups⟩]
          (Array.replicate size false) none).map finish

/-- The first match that begins at a place or behind it. -/
def search (program : Program) (text : ByteArray) (start : Nat) : Option Match :=
  (List.range (text.size + 1 - start)).findSome? fun offset =>
    program.matchAt text (start + offset)

/-- The expression matches somewhere in a text. -/
def occursIn (program : Program) (text : Bytes) : Bool :=
  (program.search ⟨text.toArray⟩ 0).isSome

end Program

/-- The program of a text that is an expression. -/
def compile (form : Form) (ignoresCase hasLines : Bool) (text : Bytes) :
    Except Fault Program := do
  return (← ofBytes form text).program ignoresCase hasLines

end ChangelogSql.Utility.Expression
