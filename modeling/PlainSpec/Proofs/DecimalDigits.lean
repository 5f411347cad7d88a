import PlainSpec.Number.Numeral
import PlainSpec.Proofs.LoweredText

/-!
# Decimal digits of any script

Numbers may be written in the digits of any script. This module gathers what all these digits have in
common: none of them is white space, a mark of punctuation or the lower case of anything, so that digits are
told apart from what may stand around them.

## Main results

* `isBlank_of_isDecimalDigit`, `isBlank_of_isWordChar`: neither digits nor letters are white space.
* `sameLetter_of_isDecimalDigit`: a digit is no variant of a letter.
-/

namespace PlainSpec

/-! ### White space -/

/-- The characters **in ranges** of code points. -/
def rangeChars (ranges : List (Nat × Nat)) : Text :=
  ranges.flatMap fun range =>
    (List.range (range.2 + 1 - range.1)).map fun n => Char.ofNat (range.1 + n)

/-- A character whose code point lies in ranges is **one of their characters**. -/
theorem mem_rangeChars {ranges : List (Nat × Nat)} {c : Char} (h : inRanges ranges c.toNat = true) :
    c ∈ rangeChars ranges := by
  obtain ⟨range, hrange, hlow, hhigh⟩ := inRanges_iff.mp h
  refine List.mem_flatMap.mpr ⟨range, hrange, List.mem_map.mpr ⟨c.toNat - range.1, ?_, ?_⟩⟩
  · rw [List.mem_range]
    omega
  · rw [Nat.add_sub_cancel' hlow, Char.ofNat_toNat]

/-- What holds of each white space character holds of **all white space**. -/
theorem forall_isBlank {p : Char → Bool} (h : (rangeChars blankRanges).all p = true) {c : Char}
    (hc : isBlank c = true) : p c = true :=
  List.all_eq_true.mp h c (mem_rangeChars hc)

/-- White space is **no letter, digit** or underscore, nor a digit of any script. -/
theorem blank_apart {c : Char} (hc : isBlank c = true) : isWordChar c = false ∧ isDecimalDigit c = false := by
  have hapart := forall_isBlank (p := fun c => !isWordChar c && !isDecimalDigit c) (by decide +kernel) hc
  simpa using hapart

/-- What belongs to a word is **no white space**. -/
theorem isBlank_of_isWordChar {c : Char} (hc : isWordChar c = true) : isBlank c = false := by
  rw [← Bool.not_eq_true]
  exact fun hblank => absurd hc (by simp [(blank_apart hblank).1])

/-- A decimal digit is **no white space**. -/
theorem isBlank_of_isDecimalDigit {c : Char} (hc : isDecimalDigit c = true) : isBlank c = false := by
  rw [← Bool.not_eq_true]
  exact fun hblank => absurd hc (by simp [(blank_apart hblank).2])

/-- What may stand around a number is **white space**. -/
theorem isBlank_of_isNumberMargin {c : Char} (hc : isNumberMargin c = true) : isBlank c = true := by
  unfold isNumberMargin at hc
  split at hc
  · rw [Bool.or_eq_true, Bool.and_eq_true, decide_eq_true_eq, decide_eq_true_eq, beq_iff_eq] at hc
    rcases hc with rfl | ⟨hlow, hhigh⟩
    · rfl
    · have hfirst : (0x09, 0x0D) ∈ blankRanges := List.mem_cons_self
      exact inRanges_iff.mpr ⟨_, hfirst, hlow, hhigh⟩
  · exact hc

/-! ### Digits -/

/-- A decimal digit lies in the range of ASCII or of **another script**. -/
theorem exists_range_of_isDecimalDigit {c : Char} (hc : isDecimalDigit c = true) :
    ∃ range ∈ (48, 57) :: decimalDigitRanges, range.1 ≤ c.toNat ∧ c.toNat ≤ range.2 := by
  unfold isDecimalDigit decimalDigit? at hc
  simp only at hc
  split at hc
  · split at hc
    · next hrange =>
      rw [Bool.and_eq_true, decide_eq_true_eq, decide_eq_true_eq] at hrange
      exact ⟨_, List.mem_cons_self, hrange⟩
    · exact absurd hc Bool.false_ne_true
  · rw [Option.isSome_map, rangeStart?, Option.isSome_map, Option.isSome_iff_exists] at hc
    obtain ⟨range, hrange⟩ := hc
    have hin := List.find?_some hrange
    rw [Bool.and_eq_true, decide_eq_true_eq, decide_eq_true_eq] at hin
    exact ⟨range, List.mem_cons_of_mem _ (List.mem_of_find?_eq_some hrange), hin⟩

/-- No digit is **shifted** by the case mapping, and none is the variant of a letter. -/
theorem digits_caseless : ((48, 57) :: decimalDigitRanges).all (fun range =>
    caseRuns.all (fun run => Nat.blt range.2 run.first || Nat.blt run.last range.1) &&
      letterVariants.all fun entry => Nat.blt entry.1 range.1 || Nat.blt range.2 entry.1) = true := by
  decide +kernel

/-- A decimal digit **stands for itself** whatever the case. -/
theorem foldCase_of_isDecimalDigit {c : Char} (hc : isDecimalDigit c = true) : foldCase c = c := by
  obtain ⟨range, hrange, hlow, hhigh⟩ := exists_range_of_isDecimalDigit hc
  obtain ⟨hruns, hvariants⟩ := Bool.and_eq_true_iff.mp (List.all_eq_true.mp digits_caseless range hrange)
  have hlower : lowerChar c = c := by
    rw [lowerChar_eq, shiftBy_of_covers, Char.ofNat_toNat]
    intro run hrun
    have hapart := List.all_eq_true.mp hruns run hrun
    rw [Bool.or_eq_true, Nat.blt_eq, Nat.blt_eq] at hapart
    rw [← Bool.not_eq_true, CaseRun.covers_iff]
    rintro ⟨hfirst, hlast, -⟩
    omega
  have hnone : letterVariants.lookup c.toNat = none := by
    rw [List.lookup_eq_none_iff]
    intro entry hentry
    have hapart := List.all_eq_true.mp hvariants entry hentry
    rw [Bool.or_eq_true, Nat.blt_eq, Nat.blt_eq] at hapart
    rw [bne_iff_ne]
    omega
  simp only [foldCase, hlower, hnone]

/-- A decimal digit is **no variant** of a letter. -/
theorem sameLetter_of_isDecimalDigit {a c : Char} (hc : isDecimalDigit c = true)
    (ha : isDecimalDigit (foldCase a) = false) : sameLetter a c = false := by
  rw [sameLetter, foldCase_of_isDecimalDigit hc, beq_eq_false_iff_ne]
  rintro rfl
  exact absurd hc (by simp [ha])

/-- A decimal digit **differs** from all that is none. -/
theorem ne_of_isDecimalDigit {a c : Char} (hc : isDecimalDigit c = true) (ha : isDecimalDigit a = false) :
    c ≠ a := by
  rintro rfl
  exact absurd hc (by simp [ha])

/-- A text of **decimal digits**, of one script or of several. -/
def Numeric (t : Text) : Prop := ∀ c ∈ t, isDecimalDigit c = true

/-- What is no digit is not **among digits**. -/
theorem Numeric.notMem {t : Text} (h : Numeric t) {a : Char} (ha : isDecimalDigit a = false) : a ∉ t :=
  fun hmem => ne_of_isDecimalDigit (h a hmem) ha rfl

/-- A decimal digit **begins a number**, as what may stand around numbers is white space. -/
theorem isNumberMargin_of_isDecimalDigit {c : Char} (hc : isDecimalDigit c = true) :
    isNumberMargin c = false := by
  rw [← Bool.not_eq_true]
  intro hmargin
  exact absurd (isBlank_of_isNumberMargin hmargin) (by simp [isBlank_of_isDecimalDigit hc])

end PlainSpec
