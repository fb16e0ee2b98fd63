import SExpr.Text

/-!
# Reaching into sequences

Items of a sequence are reached by an index, which counts from the end when it is negative, or by a
slice: every so many items between two bounds. A bound outside the sequence is moved to its end; an
index outside is refused.
-/

namespace SExpr

/-- Why an item cannot be reached. -/
inductive AccessError where
  | pastText
  | pastItems
  /-- The index is too large to count any sequence. -/
  | hugeIndex
  /-- A slice cannot stand still. -/
  | zeroStep
  deriving DecidableEq, Repr

def AccessError.message : AccessError → Text
  | .pastText => "string index out of range".toList
  | .pastItems => "tuple index out of range".toList
  | .hugeIndex => "cannot fit 'int' into an index-sized integer".toList
  | .zeroStep => "slice step cannot be zero".toList

namespace Access

/-- The offset of an index in a sequence of the length. -/
def offset (length : Nat) (i : Int) : Except AccessError Nat :=
  if i < -Int.pow 2 63 ∨ Int.pow 2 63 ≤ i then .error .hugeIndex
  else
    let fromStart := if i < 0 then i + length else i
    if 0 ≤ fromStart ∧ fromStart < length then .ok fromStart.toNat else .error .pastItems

def item (xs : List α) (i : Int) : Except AccessError α := do
  let n ← offset xs.length i
  match xs[n]? with
  | some x => .ok x
  | none => .error .pastItems

/-- Every so many items between two bounds; a bound left out is the end that the step goes from or
to. -/
structure Slice where
  start : Option Int := none
  stop : Option Int := none
  step : Option Int := none
  deriving DecidableEq, Repr

namespace Slice

/-- A bound, counted from the end when negative and moved into `low … high`. -/
def clamp (length low high bound : Int) : Int :=
  if bound < 0 then max low (bound + length) else min high bound

/-- How many steps of size `step` lead from `first` to before `last`. -/
def count (first last step : Int) : Nat :=
  if 0 < step then
    if first < last then ((last - first - 1) / step + 1).toNat else 0
  else
    if last < first then ((first - last - 1) / -step + 1).toNat else 0

/-- The offsets that the slice takes from a sequence of the length. -/
def offsets (s : Slice) (length : Nat) : Except AccessError (List Nat) :=
  let step := s.step.getD 1
  if step = 0 then .error .zeroStep
  else
    let low : Int := if 0 < step then 0 else -1
    let high : Int := if 0 < step then length else length - 1
    let first := (s.start.map (clamp length low high)).getD (if 0 < step then low else high)
    let last := (s.stop.map (clamp length low high)).getD (if 0 < step then high else low)
    .ok ((List.range (count first last step)).map fun (k : Nat) => (first + step * k).toNat)

end Slice

def slice (xs : List α) (s : Slice) : Except AccessError (List α) :=
  (s.offsets xs.length).map fun places => places.filterMap (xs[·]?)

end Access

/-- For each item, the index of the first item with the same key. -/
def firstWithKey [BEq κ] (key : α → κ) (xs : List α) : List Nat :=
  (xs.map key).map fun k => (xs.map key).idxOf k

end SExpr
