import ChangelogSql.Text.Utf8

/-!
How alike two words are: the mean of three shares, those of the letters of each
word that have a partner in the other and that of the partners that keep their
order. A partner is an equal letter not too far away, and each letter has at
most one. Every share is kept in 53 binary digits, so that what is near a bound
or near another share is told apart the way a computer does.
-/

namespace ChangelogSql.CommandLine

/-- A share of a whole, as two numbers. -/
structure Share where
  part : Nat
  whole : Nat
  deriving DecidableEq

/-- One share is smaller than another. -/
def Share.less (share other : Share) : Bool :=
  share.part * other.whole < other.part * share.whole

namespace Share

/-- The whole number nearest to a quotient, the even one of two that are equally near. -/
def nearest (part whole : Nat) : Nat :=
  let quotient := part / whole
  let rest := 2 * (part % whole)
  if rest < whole then quotient
  else if whole < rest then quotient + 1
  else quotient + quotient % 2

/-- How many binary digits are kept. -/
def digits : Nat :=
  53

/-- The share nearest to this one that has no more binary digits than are kept. -/
def rounded (share : Share) : Share :=
  if share.part = 0 then ⟨0, 1⟩
  else
    let shift := digits + share.whole.log2 - share.part.log2
    let shift :=
      if (share.part <<< shift) / share.whole < 1 <<< digits then shift else shift - 1
    ⟨nearest (share.part <<< shift) share.whole, 1 <<< shift⟩

/-- One share and another. -/
def plus (share other : Share) : Share :=
  rounded ⟨share.part * other.whole + other.part * share.whole, share.whole * other.whole⟩

/-- One of three equal pieces of a share. -/
def third (share : Share) : Share :=
  rounded ⟨share.part, 3 * share.whole⟩

end Share

namespace Similarity

/-- How far apart partners can be in words of the given lengths. -/
def reach (length other : Nat) : Nat :=
  max length other / 2 - 1

/-- The place of the first free equal letter between two bounds, the upper one left out. -/
def partner? (letter : Char) (low high : Nat) (taken : List Nat) (word : List Char) : Option Nat :=
  (List.range (min high word.length)).find? fun place =>
    low ≤ place && word[place]? = some letter && !taken.contains place

/-- The places of letters that have partners, each with the place of its partner, from the letter at
`place` on. -/
def partners (distance : Nat) (other : List Char) :
    Nat → List Nat → List Char → List (Nat × Nat)
  | _, _, [] => []
  | place, taken, letter :: rest =>
    match partner? letter (place - distance) (place + distance + 1) taken other with
    | some found => (place, found) :: partners distance other (place + 1) (found :: taken) rest
    | none => partners distance other (place + 1) taken rest

/-- How many letters with partners differ when those of each word are put in order. -/
def displaced (word other : List Char) (pairs : List (Nat × Nat)) : Nat :=
  let first := pairs.filterMap fun pair => word[pair.1]?
  let second := ((pairs.map (·.2)).mergeSort).filterMap fun place => other[place]?
  (first.zip second).countP fun pair => pair.1 ≠ pair.2

/-- How alike two words are, from none to the whole. -/
def of (word other : List Char) : Share :=
  if word = [] && other = [] then ⟨1, 1⟩
  else
    let pairs := partners (reach word.length other.length) other 0 [] word
    match pairs.length with
    | 0 => ⟨0, 1⟩
    | shared =>
      let kept := shared - displaced word other pairs / 2
      (((Share.rounded ⟨shared, word.length⟩).plus (Share.rounded ⟨shared, other.length⟩)).plus
        (Share.rounded ⟨kept, shared⟩)).third

/-- Words are similar from here on, this share left out. -/
def threshold : Share :=
  Share.rounded ⟨7, 10⟩

/-- The most similar of several words, where one is similar at all. Of equally similar ones the last
counts. -/
def best? (word : String) (candidates : List String) : Option String :=
  let scored := candidates.map fun candidate => (of word.toList candidate.toList, candidate)
  let similar := scored.filter fun entry => threshold.less entry.1
  (similar.foldl
    (fun best? entry =>
      match best? with
      | none => some entry
      | some best => if entry.1.less best.1 then some best else some entry)
    none).map (·.2)

end Similarity

end ChangelogSql.CommandLine
