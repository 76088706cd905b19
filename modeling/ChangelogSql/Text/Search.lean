/-!
Searching a list for a block of consecutive elements. Texts and byte strings
share these operations: an occurrence is a position where the block stands
whole, searches go from the left, and a replacement never looks inside what it
has already put down.
-/

namespace ChangelogSql.Text

variable {α : Type} [DecidableEq α]

/-- What follows `block` where `whole` begins with it, and `none` where it does not. -/
def afterBlock? (block whole : List α) : Option (List α) :=
  match block, whole with
  | [], rest => some rest
  | _ :: _, [] => none
  | b :: block, w :: whole => if b = w then afterBlock? block whole else none

/-- What follows the leftmost occurrence of `block`. -/
def afterFirst? (block : List α) : List α → Option (List α)
  | [] => afterBlock? block []
  | w :: whole =>
    match afterBlock? block (w :: whole) with
    | some rest => some rest
    | none => afterFirst? block whole

/-- `block` stands somewhere in `whole`. -/
def occursIn (block whole : List α) : Bool :=
  (afterFirst? block whole).isSome

theorem afterBlock?_eq_some {block whole rest : List α} :
    afterBlock? block whole = some rest ↔ whole = block ++ rest := by
  induction block generalizing whole with
  | nil => simp [afterBlock?, eq_comm]
  | cons b block ih =>
    cases whole with
    | nil => simp [afterBlock?]
    | cons w whole =>
      by_cases same : b = w
      · simp [afterBlock?, same, ih]
      · simp [afterBlock?, same, Ne.symm same]

/-- Replaces every occurrence of `block`, from the left and without overlap. While `skip` is
positive the elements belong to an occurrence that has already been replaced. -/
private def replaceFrom (block new : List α) : Nat → List α → List α
  | _, [] => []
  | skip + 1, _ :: whole => replaceFrom block new skip whole
  | 0, w :: whole =>
    match afterBlock? block (w :: whole) with
    | some _ => new ++ replaceFrom block new (block.length - 1) whole
    | none => w :: replaceFrom block new 0 whole

/-- `whole` with every occurrence of `block` replaced, from the left and without overlap. An
empty block occurs nowhere. -/
def replaceAll (block new whole : List α) : List α :=
  if block = [] then whole else replaceFrom block new 0 whole

theorem replaceAll_nil (block new : List α) : replaceAll block new [] = [] := by
  simp [replaceAll, replaceFrom]

/-- Where the block does not begin, an element is kept. -/
theorem replaceAll_cons {block whole : List α} {w : α} (new : List α)
    (apart : afterBlock? block (w :: whole) = none) :
    replaceAll block new (w :: whole) = w :: replaceAll block new whole := by
  by_cases empty : block = []
  · simp [replaceAll, empty]
  · simp [replaceAll, empty, replaceFrom, apart]

private theorem replaceFrom_append (block new front rest : List α) :
    replaceFrom block new front.length (front ++ rest) = replaceFrom block new 0 rest := by
  induction front with
  | nil => rfl
  | cons a front ih => simpa [replaceFrom] using ih

/-- Where the block begins it is replaced, and the search goes on behind it. -/
theorem replaceAll_block {block : List α} (filled : block ≠ []) (new rest : List α) :
    replaceAll block new (block ++ rest) = new ++ replaceAll block new rest := by
  cases block with
  | nil => exact absurd rfl filled
  | cons b block =>
    have begun : afterBlock? (b :: block) (b :: (block ++ rest)) = some rest :=
      afterBlock?_eq_some.mpr rfl
    rw [replaceAll, replaceAll, if_neg filled, if_neg filled, List.cons_append, replaceFrom, begun]
    exact congrArg (new ++ ·) (replaceFrom_append (b :: block) new block rest)

/-- The pieces between the occurrences of `separator`, the empty ones included; there is always
at least one. -/
def splitAt (separator : α) : List α → List (List α)
  | [] => [[]]
  | a :: rest =>
    if a = separator then [] :: splitAt separator rest
    else
      match splitAt separator rest with
      | [] => [[a]]
      | piece :: pieces => (a :: piece) :: pieces

/-- The pieces one after the other with `separator` between neighbours. -/
def joinWith (separator : α) : List (List α) → List α
  | [] => []
  | [piece] => piece
  | piece :: next :: pieces => piece ++ separator :: joinWith separator (next :: pieces)

theorem splitAt_ne_nil (separator : α) (whole : List α) : splitAt separator whole ≠ [] := by
  cases whole with
  | nil => simp [splitAt]
  | cons a rest =>
    unfold splitAt
    split
    · simp
    · split <;> simp

theorem joinWith_splitAt (separator : α) (whole : List α) :
    joinWith separator (splitAt separator whole) = whole := by
  induction whole with
  | nil => rfl
  | cons a rest ih =>
    unfold splitAt
    split
    next same =>
      cases pieces : splitAt separator rest with
      | nil => exact absurd pieces (splitAt_ne_nil _ _)
      | cons piece more => rw [pieces] at ih; simp [joinWith, ih, same]
    next =>
      cases pieces : splitAt separator rest with
      | nil => exact absurd pieces (splitAt_ne_nil _ _)
      | cons piece more =>
        rw [pieces] at ih
        cases more with
        | nil => simpa [joinWith] using ih
        | cons next more => simpa [joinWith] using ih

end ChangelogSql.Text
