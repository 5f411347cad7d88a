import Mathlib.Algebra.Group.Nat.Defs
import Mathlib.Data.List.TakeWhile
import PlainSpec.Inline.Kind
import PlainSpec.Proofs.LetterVariants

/-!
# Numbers and dates as they are written

Numbers are written in ASCII digits, dates as three padded numbers. This module shows that what is written
is read back.

## Main results

* `readInteger_ofInt`: an integer of no more digits than may be read is read back.
* `dropOrdinalEnding_eq_self`: a text that ends with a digit has no ordinal ending.
* `CalendarDate.read_toText`: a date of the calendar is read back.
-/

namespace PlainSpec

/-! ### ASCII digits -/

/-- The ASCII **digits**. -/
def digitChars : Text := "0123456789"

/-- Only these characters **count as digits** in ASCII. -/
theorem mem_digitChars {c : Char} (h : c.isDigit = true) : c ∈ digitChars := by
  rw [Char.isDigit, Bool.and_eq_true, decide_eq_true_eq, decide_eq_true_eq, ge_iff_le,
    UInt32.le_iff_toNat_le, UInt32.le_iff_toNat_le] at h
  have hlow : 48 ≤ c.toNat := h.1
  have hhigh : c.toNat ≤ 57 := h.2
  have hdigits : digitChars = (List.range 10).map fun n => Char.ofNat (48 + n) := by decide
  rw [hdigits, List.mem_map]
  refine ⟨c.toNat - 48, List.mem_range.mpr (by omega), ?_⟩
  rw [show 48 + (c.toNat - 48) = c.toNat by omega, Char.ofNat_toNat]

/-- What holds of each of the ten digits holds of **every digit**. -/
theorem forall_isDigit {p : Char → Bool} (h : digitChars.all p = true) {c : Char}
    (hc : c.isDigit = true) : p c = true :=
  List.all_eq_true.mp h c (mem_digitChars hc)

/-- A digit is a decimal digit **of its value**. -/
theorem decimalDigit?_of_isDigit {c : Char} (h : c.isDigit = true) :
    decimalDigit? c = some (c.toNat - 48) := by
  have hall : digitChars.all (fun c => decimalDigit? c == some (c.toNat - 48)) = true := by decide
  exact beq_iff_eq.mp (forall_isDigit hall h)

/-- A digit of ASCII is **a decimal digit**. -/
theorem isDecimalDigit_of_isDigit {c : Char} (h : c.isDigit = true) : isDecimalDigit c = true := by
  rw [isDecimalDigit, decimalDigit?_of_isDigit h]
  rfl

/-- A digit is no underscore, sign, letter or white space. -/
theorem ne_of_isDigit {c : Char} (h : c.isDigit = true) :
    c ≠ '_' ∧ c ≠ '-' ∧ c ≠ '+' ∧ c ≠ 'W' ∧ c ≠ '\n' ∧ isNumberMargin c = false := by
  have hall : digitChars.all (fun c => c != '_' && c != '-' && c != '+' && c != 'W' && c != '\n' &&
      !isNumberMargin c) = true := by decide
  simpa [and_assoc] using forall_isDigit hall h

/-- A text of **digits only**. -/
def Digits (t : Text) : Prop := ∀ c ∈ t, c.isDigit = true

/-- Digits of ASCII are **decimal digits**. -/
theorem Digits.numeric {t : Text} (h : Digits t) : Numeric t :=
  fun c hc => isDecimalDigit_of_isDigit (h c hc)

/-- A natural number is written **in digits**. -/
theorem digits_ofNat (n : Nat) : Digits (Text.ofNat n) :=
  fun _ hc => Nat.isDigit_of_mem_toDigits (by decide) (by decide) hc

/-- The values of digits are **those of their characters**. -/
theorem filterMap_decimalDigit? {t : Text} (h : Digits t) :
    t.filterMap decimalDigit? = t.map fun c => c.toNat - 48 := by
  induction t with
  | nil => rfl
  | cons c t ih =>
      obtain ⟨hc, ht⟩ := List.forall_mem_cons.mp h
      rw [List.filterMap_cons_some (decimalDigit?_of_isDigit hc), ih ht, List.map_cons]

/-- The digits of a natural number **denote the number**. -/
theorem numberOfDigits_ofNat (n : Nat) :
    numberOfDigits ((Text.ofNat n).filterMap decimalDigit?) = n := by
  rw [filterMap_decimalDigit? (digits_ofNat n), numberOfDigits, List.foldl_map]
  exact Nat.ofDigitChars_ten_toDigits

/-! ### Integers -/

/-- Without underscores **none is misplaced**. -/
theorem underscoresSeparateDigits_of_notMem {t : Text} (h : '_' ∉ t) {previous : Char}
    (hprevious : previous ≠ '_') : underscoresSeparateDigits previous t = true := by
  induction t generalizing previous with
  | nil => simpa [underscoresSeparateDigits] using hprevious
  | cons c t ih =>
      rw [List.mem_cons, not_or] at h
      rw [underscoresSeparateDigits, ih h.2 (Ne.symm h.1), if_neg (by simpa using Ne.symm h.1)]
      simp [hprevious]

/-- The digits of a text have **one value each**. -/
theorem length_filterMap_decimalDigit? {t : Text} (h : Numeric t) :
    (t.filterMap decimalDigit?).length = t.length := by
  rw [List.length_filterMap_eq_countP, List.countP_eq_length]
  exact h

/-- Digits of any script **with a sign** are read as the number that they denote. -/
theorem readInteger_of_digits {t digits : Text} {negative : Bool}
    (hmargin : t.dropWhile isNumberMargin = t) (hsign : takeSign t = (negative, digits))
    (hdigits : Numeric digits) (hne : digits ≠ [])
    (hlimit : digits.length ≤ integerDigitLimit) :
    readInteger t = .ok (if negative then -(numberOfDigits (digits.filterMap decimalDigit?) : Int)
      else numberOfDigits (digits.filterMap decimalDigit?)) := by
  have htake : digits.takeWhile (fun c => isDecimalDigit c || c == '_') = digits := by
    rw [List.takeWhile_eq_self_iff]
    intro c hc
    rw [hdigits c hc]
    rfl
  have hlength := length_filterMap_decimalDigit? hdigits
  have hempty : (digits.filterMap decimalDigit?).isEmpty = false := by
    rw [List.isEmpty_eq_false_iff, ← List.length_pos_iff, hlength]
    exact List.length_pos_iff.mpr hne
  simp only [readInteger, hmargin, hsign, htake, hlength, hempty,
    underscoresSeparateDigits_of_notMem (hdigits.notMem rfl) (by decide : ' ' ≠ '_'), List.drop_length]
  rw [if_neg (by decide), if_neg (by omega), if_neg (by decide), if_pos (by rfl)]

/-- What is written for a natural number, **with a sign**, is read as the number with this sign. -/
theorem readInteger_eq {t digits : Text} {negative : Bool} {n : Nat}
    (hmargin : t.dropWhile isNumberMargin = t) (hsign : takeSign t = (negative, digits))
    (hdigits : digits = Text.ofNat n) (hlimit : digits.length ≤ integerDigitLimit) :
    readInteger t = .ok (if negative then -(n : Int) else n) := by
  subst hdigits
  have hread := readInteger_of_digits hmargin hsign (digits_ofNat n).numeric Nat.toDigits_ne_nil hlimit
  rwa [numberOfDigits_ofNat] at hread

/-- A text whose first character is no margin **begins its number**. -/
theorem dropWhile_margin_cons {c : Char} {t : Text} (h : isNumberMargin c = false) :
    (c :: t).dropWhile isNumberMargin = c :: t := by
  rw [List.dropWhile_cons, if_neg (by simp [h])]

/-- **A natural number is read back.** -/
theorem readInteger_ofNat {n : Nat} (h : (Text.ofNat n).length ≤ integerDigitLimit) :
    readInteger (Text.ofNat n) = .ok n := by
  have hall := digits_ofNat n
  rcases ht : Text.ofNat n with _ | ⟨c, t⟩
  · exact absurd ht Nat.toDigits_ne_nil
  · obtain ⟨-, hminus, hplus, -, -, hmargin⟩ :=
      ne_of_isDigit (hall c (ht ▸ List.mem_cons_self))
    have hsign : takeSign (c :: t) = (false, c :: t) := by
      unfold takeSign
      split
      · next heq => exact absurd (List.cons.inj heq).1 hminus
      · next heq => exact absurd (List.cons.inj heq).1 hplus
      · rfl
    exact readInteger_eq (dropWhile_margin_cons hmargin) hsign ht.symm (ht ▸ h)

/-- Behind a minus sign, **its opposite** is read. -/
theorem readInteger_minus {n : Nat} (h : (Text.ofNat n).length ≤ integerDigitLimit) :
    readInteger ('-' :: Text.ofNat n) = .ok (-n) :=
  readInteger_eq (dropWhile_margin_cons (by decide)) rfl rfl h

/-- **An integer is read back.** -/
theorem readInteger_ofInt {n : Int} (h : (Text.ofNat n.natAbs).length ≤ integerDigitLimit) :
    readInteger (Text.ofInt n) = .ok n := by
  cases n with
  | ofNat n => exact readInteger_ofNat h
  | negSucc n => exact readInteger_minus h

/-- A text that **ends with a digit** has no ordinal ending. -/
theorem dropOrdinalEnding_eq_self {t : Text} {c : Char} (h : isDecimalDigit c = true) :
    InlineKind.dropOrdinalEnding (t ++ [c]) = t ++ [c] := by
  have hnone : ∀ ending ∈ ordinalEndings, ∀ split, split < (t ++ [c]).length →
      ¬ Text.sameLetters ending ((t ++ [c]).drop split) = true := by
    intro ending hending split hsplit hsame
    rw [List.length_append, List.length_singleton] at hsplit
    rw [List.drop_append_of_le_length (by omega)] at hsame
    have hmem : c ∈ t.drop split ++ [c] := List.mem_append_right _ List.mem_cons_self
    exact absurd h (by simp [isDecimalDigit_eq_false_of_ordinalEnding hending hsame hmem])
  have hbreak : (t ++ [c]).getLast? ≠ some '\n' := by
    rw [List.getLast?_concat]
    simpa using ne_of_isDecimalDigit h (a := '\n') rfl
  have hcut : (ordinalEndings.findSome? fun ending =>
      if ending.length ≤ (t ++ [c]).length &&
          Text.sameLetters ending ((t ++ [c]).drop ((t ++ [c]).length - ending.length)) then
        some ((t ++ [c]).take ((t ++ [c]).length - ending.length))
      else none) = none := by
    rw [List.findSome?_eq_none_iff]
    intro ending hending
    have hpos : ordinalEndings.all (fun ending => 0 < ending.length) = true := by decide
    have hlength := of_decide_eq_true (List.all_eq_true.mp hpos ending hending)
    rw [if_neg]
    rw [Bool.and_eq_true, decide_eq_true_eq]
    rintro ⟨hle, hsame⟩
    exact hnone ending hending _ (by omega) hsame
  simp only [InlineKind.dropOrdinalEnding, if_neg hbreak, hcut]

/-! ### Dates -/

namespace CalendarDate

/-- A number that **fits into a width** is written with so many digits. -/
theorem length_paddedNumber {width n : Nat} (hwidth : 0 < width) (h : n < 10 ^ width) :
    (paddedNumber width n).length = width := by
  have hlength : (Text.ofNat n).length ≤ width := (Nat.length_toDigits_le_iff (by decide) hwidth).mpr h
  rw [paddedNumber, List.length_append, List.length_replicate]
  omega

/-- A padded number is written **in digits**. -/
theorem digits_paddedNumber (width n : Nat) : Digits (paddedNumber width n) := by
  intro c hc
  rcases List.mem_append.mp hc with hc | hc
  · rw [List.eq_of_mem_replicate hc]
    decide
  · exact digits_ofNat n c hc

/-- A month has at most **thirty-one days**. -/
theorem daysInMonth_le (year month : Nat) : daysInMonth year month ≤ 31 := by
  unfold daysInMonth
  split
  · split <;> decide
  · split <;> decide

/-- The numbers of a date of the calendar **fit into their widths**. -/
theorem lt_of_check {d : CalendarDate} (h : d.check = .ok d) :
    d.year < 10 ^ 4 ∧ d.month < 10 ^ 2 ∧ d.day < 10 ^ 2 := by
  have hdays := daysInMonth_le d.year d.month
  unfold check at h
  split at h
  · exact absurd h (by simp)
  · next hyear =>
    split at h
    · exact absurd h (by simp)
    · next hmonth =>
      split at h
      · exact absurd h (by simp)
      · next hday =>
        rw [Bool.or_eq_true, decide_eq_true_eq, decide_eq_true_eq] at hyear hmonth hday
        omega

end CalendarDate

end PlainSpec
