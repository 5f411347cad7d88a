import PlainSpec.Text.Basic

/-!
# Similarity of texts

Two texts are compared by the characters that they have in common. The longest common run splits both
texts; what lies before it and what lies after it are compared in the same way. Common runs may only begin
at rare characters of the second text, and are then extended over the frequent ones.
-/

namespace PlainSpec

/-- A **common run** of two texts: where it begins in each, and its size. -/
structure CommonRun where
  start₁ : Nat
  start₂ : Nat
  size : Nat
  deriving DecidableEq, Repr

namespace Similarity

/-- From this length on a text has **frequent characters**. -/
def frequentFrom : Nat := 200

/-- The **frequent characters** of a text: if the text is long, those that occur more than once, and once
more for every hundred characters. -/
def frequentChars (t : Text) : List Char :=
  if frequentFrom ≤ t.length then t.eraseDups.filter fun c => t.length / 100 + 1 < t.count c else []

/-- The sizes of the common runs that **end** at a character of the first text and at each one of the
second, from those that end one character earlier in the first. -/
def runSizes (rare : Char → Bool) (c : Char) (t : Text) (previous : List Nat) : List Nat :=
  List.zipWith (fun d size => if c = d && rare d then size + 1 else 0) t (0 :: previous)

/-- The **longer** one of a run and those that end at a position of the first text; the earlier one of
equal sizes. -/
def longerRun (position : Nat) (best : CommonRun) (sizes : List Nat) : CommonRun :=
  sizes.zipIdx.foldl (fun best (size, i) =>
    if best.size < size then ⟨position + 1 - size, i + 1 - size, size⟩ else best) best

/-- The **longest common run** of rare characters in what is left of the first text. -/
def longestRareRun (rare : Char → Bool) (t : Text) : Nat → CommonRun → List Nat → Text → CommonRun
  | _, best, _, [] => best
  | position, best, previous, c :: rest =>
    let sizes := runSizes rare c t previous
    longestRareRun rare t (position + 1) (longerRun position best sizes) sizes rest

/-- How many characters two texts **begin with alike**. -/
def commonStart : Text → Text → Nat
  | a :: as, b :: bs => if a = b then commonStart as bs + 1 else 0
  | _, _ => 0

/-- **Extend** a common run in both directions. -/
def extend (s t : Text) (run : CommonRun) : CommonRun :=
  let before := commonStart (s.take run.start₁).reverse (t.take run.start₂).reverse
  let after := commonStart (s.drop (run.start₁ + run.size)) (t.drop (run.start₂ + run.size))
  ⟨run.start₁ - before, run.start₂ - before, before + run.size + after⟩

/-- The **longest common run** of two texts. -/
def longestRun (rare : Char → Bool) (s t : Text) : CommonRun :=
  extend s t (longestRareRun rare t 0 ⟨0, 0, 0⟩ (t.map fun _ => 0) s)

/-- The number of characters that two texts **share** in common runs that follow one another. -/
def shared (rare : Char → Bool) (s t : Text) : Nat :=
  let run := longestRun rare s t
  if run.start₁ < s.length ∧ 0 < run.size then
    shared rare (s.take run.start₁) (t.take run.start₂) + run.size +
      shared rare (s.drop (run.start₁ + run.size)) (t.drop (run.start₂ + run.size))
  else 0
termination_by s.length
decreasing_by all_goals simp +zetaDelta only [List.length_take, List.length_drop] at *; omega

/-- A **proportion** of two numbers. -/
structure Ratio where
  part : Nat
  whole : Nat
  deriving DecidableEq, Repr

/-- Whether a proportion is **greater** than another. -/
def Ratio.exceeds (a b : Ratio) : Bool := b.part * a.whole < a.part * b.whole

/-- How much two texts are **alike**: the proportion of the characters they share. -/
def ratio (s t : Text) : Ratio :=
  if s.length + t.length = 0 then ⟨1, 1⟩
  else
    let frequent := frequentChars t
    ⟨2 * shared (fun c => !frequent.contains c) s t, s.length + t.length⟩

/-- The element whose text is **most alike** to a text; the first one of several. -/
def mostAlike? {α : Type} (text : α → Text) (s : Text) : List α → Option α
  | [] => none
  | first :: rest =>
    some (rest.foldl (fun (best : α × Ratio) next =>
      let r := ratio s (text next)
      if r.exceeds best.2 then (next, r) else best) (first, ratio s (text first))).1

end Similarity

end PlainSpec
