/-!
Character properties given by sorted tables of code points.

A property is a list of closed ranges, and a letter map a list of runs; both are searched from the
front, so a statement about every entry of a table is a statement about the property.
-/

namespace SqlOutline.Unicode

/-- Whether `n` lies in one of the closed ranges of `table`. -/
def inRanges (table : List (Nat × Nat)) (n : Nat) : Bool :=
  table.any fun r => r.1 ≤ n && n ≤ r.2

theorem inRanges_eq_true_iff {table : List (Nat × Nat)} {n : Nat} :
    inRanges table n = true ↔ ∃ r ∈ table, r.1 ≤ n ∧ n ≤ r.2 := by
  simp [inRanges]

/-- The code points `first`, `first + step`, … up to `last`, sent to `image`, `image + step`, …
in the same order. -/
structure Run where
  first : Nat
  last : Nat
  step : Nat
  image : Nat
  deriving DecidableEq, Repr

/-- Where the run sends `n`, if `n` is one of its code points. -/
def Run.send? (r : Run) (n : Nat) : Option Nat :=
  if r.first ≤ n ∧ n ≤ r.last ∧ (n - r.first) % r.step = 0 then some (r.image + (n - r.first)) else none

/-- Where the first run that knows `n` sends it; `n` itself when none does. -/
def applyRuns (table : List Run) (n : Nat) : Nat :=
  (table.findSome? (·.send? n)).getD n

end SqlOutline.Unicode
