import PlainSpec.Text.Basic

/-!
# Character classes as ranges

A class of characters beyond ASCII is a list of ranges of code points, and a case mapping a list of runs
that shift every character, or every other one, by the same amount.
-/

namespace PlainSpec

/-- Whether a code point lies in one of the ranges, **ends included**. -/
def inRanges (ranges : List (Nat × Nat)) (n : Nat) : Bool :=
  ranges.any fun range => range.1 ≤ n && n ≤ range.2

/-- A code point lies in ranges if it lies **in one of them**. -/
theorem inRanges_iff {ranges : List (Nat × Nat)} {n : Nat} :
    inRanges ranges n = true ↔ ∃ range ∈ ranges, range.1 ≤ n ∧ n ≤ range.2 := by
  simp [inRanges]

/-- The start of the range in which a code point lies. -/
def rangeStart? (ranges : List (Nat × Nat)) (n : Nat) : Option Nat :=
  (ranges.find? fun range => range.1 ≤ n && n ≤ range.2).map Prod.fst

/-- A **run** of code points from `first` to `last`, `step` apart, that are mapped by the same shift. -/
structure CaseRun where
  first : Nat
  last : Nat
  step : Nat
  shift : Int

/-- Whether a run maps the code point. -/
def CaseRun.covers (run : CaseRun) (n : Nat) : Bool :=
  run.first ≤ n && n ≤ run.last && (n - run.first) % run.step == 0

/-- Map a code point by the run that covers it; one that no run covers is **left alone**. -/
def shiftBy (runs : List CaseRun) (n : Nat) : Nat :=
  match runs.find? (·.covers n) with
  | some run => (n + run.shift).toNat
  | none => n

end PlainSpec
