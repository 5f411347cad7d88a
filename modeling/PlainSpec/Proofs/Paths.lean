import Mathlib.Data.Char
import Mathlib.Data.List.Lex
import Mathlib.Order.Lattice
import PlainSpec.Files.Path
import PlainSpec.Proofs.SplitTexts

/-!
# The names and the order of paths

A path is read from a text by cutting it at its slashes, and empty names and single dots are left out. So texts with
a slash between them denote the path of the first followed by that of the second. Paths are ordered by their names,
and names by their characters.

## Main results

* `pairwise_mergeSort`: what is sorted by a key is in the order of this key.
* `Text.before_iff_le`, `Path.before_iff_le`: texts and paths are ordered as lists.
* `Path.ofText_append`: the path of two texts with a slash between them.
-/

namespace PlainSpec

/-! ### Order -/

/-- What is sorted **by a key** is in the order of this key. -/
theorem pairwise_mergeSort {α β : Type} [LinearOrder β] {before : α → α → Bool} (key : α → β)
    (h : ∀ a b, before a b = true ↔ key a ≤ key b) (l : List α) :
    (l.mergeSort before).Pairwise fun a b => before a b = true := by
  refine List.pairwise_mergeSort (fun a b c hab hbc => ?_) (fun a b => ?_) l
  · exact (h a c).mpr (((h a b).mp hab).trans ((h b c).mp hbc))
  · rw [Bool.or_eq_true, h, h]
    exact le_total _ _

/-- The order of texts is that of **lists of characters**. -/
theorem Text.before_iff_le {a b : List Char} : Text.before a b = true ↔ a ≤ b := by
  rw [Text.before, Bool.not_eq_true', ← Bool.not_eq_true, List.lex_eq_true_iff_lex, ← not_lt]
  simp only [decide_eq_true_eq]
  exact Iff.rfl

namespace Path

/-- The order of paths is that of **lists of names**. -/
theorem before_iff_le {a b : Path} : a.before b = true ↔ a.names ≤ b.names := by
  rw [before, Bool.not_eq_true', ← Bool.not_eq_true, List.lex_eq_true_iff_lex, ← not_lt]
  simp only [List.lex_eq_true_iff_lex, decide_eq_true_eq]
  exact Iff.rfl

/-! ### Names -/

/-- Paths with **the same names** are the same. -/
theorem eq_of_names {a b : Path} (h : a.names = b.names) : a = b := by
  cases a
  cases b
  exact congrArg mk h

/-- Whether a name **counts**: empty names and single dots do not. -/
def counts (name : Text) : Bool := !name.isEmpty && name != ['.']

/-- The names of a path that is **read from a text**. -/
theorem names_ofText (t : Text) : (ofText t).names = (Text.splitOn (· == '/') t).filter counts := rfl

/-- A text without slashes has **no character to be cut at**. -/
theorem beq_slash {t : Text} (h : '/' ∉ t) : ∀ c ∈ t, (c == '/') = false := by
  rintro c hc
  rw [beq_eq_false_iff_ne]
  rintro rfl
  exact h hc

/-- The names between slashes **hold none**. -/
theorem notMem_of_mem_splitOn {t name : Text} (h : name ∈ Text.splitOn (· == '/') t) : '/' ∉ name :=
  fun hmem => absurd (Text.not_of_mem_splitOn h '/' hmem) (by simp)

/-- **Texts with a slash between them** denote the path of the first followed by that of the second. -/
theorem ofText_append (s t : Text) : ofText (s ++ '/' :: t) = (ofText s).append (ofText t) := by
  refine eq_of_names ?_
  rw [append, names_ofText, names_ofText, names_ofText, Text.splitOn_append (p := (· == '/')) rfl, List.filter_append]

/-- A text without slashes denotes **one name**, if it counts. -/
theorem names_ofText_of_notMem {t : Text} (h : '/' ∉ t) : (ofText t).names = [t].filter counts := by
  rw [names_ofText, Text.splitOn_eq_self (beq_slash h)]

/-- **Joined names** denote the path of those that count. -/
theorem names_ofText_join {names : List Text} (h : ∀ name ∈ names, '/' ∉ name) :
    (ofText (Text.join "/" names)).names = names.filter counts := by
  by_cases hne : names = []
  · rw [hne]
    rfl
  · rw [names_ofText]
    exact congrArg _ (Text.splitOn_join (p := (· == '/')) rfl hne fun name hname => beq_slash (h name hname))

end Path

end PlainSpec
