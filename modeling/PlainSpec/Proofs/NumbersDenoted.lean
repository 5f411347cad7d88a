import Mathlib.Algebra.Field.Rat
import Mathlib.Algebra.Order.Field.Rat
import Mathlib.Tactic.FieldSimp
import Mathlib.Tactic.NormNum
import Mathlib.Tactic.Ring
import PlainSpec.Proofs.LetterVariants
import PlainSpec.Proofs.MatchedNumbers
import PlainSpec.Proofs.WholeTexts

/-!
# What captured numbers denote

A text denotes a number by its sign and its digits, which may be of any script; digits behind a point count as a
fraction, and letters do not count. Whatever the fragment of a type of numbers matches is converted, and integers
and decimal numbers become the number that the text denotes. An ordinal ending stands behind the capture.

## Main results

* `numberOfDigits_append`: the digits of a number in two parts.
* `convert_integer`, `convert_decimal`: the values of a sign with digits and of the parts of a number.
* `Catalog.convert_captured_number`: captured numbers convert to the numbers written.
-/

namespace PlainSpec

/-! ### Numbers as they are written -/

/-- The **digits** in a text by value, whatever their script. -/
def digitsIn (t : Text) : List Nat := t.filterMap decimalDigit?

/-- The **sign** of a number, as a factor. -/
def signIn (t : Text) : Int := if t.head? = some '-' then -1 else 1

/-- The **integer** that a text denotes by its sign and its digits. -/
def integerIn (t : Text) : Int := signIn t * numberOfDigits (digitsIn t)

/-- The **number with a point** that a text denotes: digits in front of the point are whole, those behind it are a
fraction. Where there are none, they count as zero. -/
def rationalIn (t : Text) : ℚ :=
  let whole := digitsIn (t.takeWhile (· != '.'))
  let fraction := digitsIn (t.dropWhile (· != '.'))
  signIn t * (numberOfDigits whole + numberOfDigits fraction / 10 ^ fraction.length)

/-- The **rational number** that a decimal number is, if it is one. -/
def Decimal.value? : Decimal → Option ℚ
  | finite negative coefficient exponent =>
    some ((if negative then -1 else 1) * coefficient * 10 ^ exponent)
  | infinite _ | notANumber _ _ _ => none

/-- Digits behind others **shift** these. -/
theorem numberOfDigits_append (digits more : List Nat) :
    numberOfDigits (digits ++ more) = numberOfDigits digits * 10 ^ more.length + numberOfDigits more := by
  induction more using List.reverseRecOn with
  | nil => simp [numberOfDigits]
  | append_singleton more d ih =>
      have hlast : ∀ l : List Nat, numberOfDigits (l ++ [d]) = 10 * numberOfDigits l + d := by
        intro l
        simp [numberOfDigits]
      rw [← List.append_assoc, hlast, hlast, ih, List.length_append, List.length_singleton, Nat.pow_succ]
      ring

/-- The digits of two texts **one after the other**. -/
theorem digitsIn_append (u v : Text) : digitsIn (u ++ v) = digitsIn u ++ digitsIn v := List.filterMap_append

/-- A text **without digits** has none to be counted. -/
theorem digitsIn_eq_nil {t : Text} (h : ∀ c ∈ t, isDecimalDigit c = false) : digitsIn t = [] := by
  rw [digitsIn, List.filterMap_eq_nil_iff]
  intro c hc
  exact Option.isNone_iff_eq_none.mp (by simpa [isDecimalDigit] using h c hc)

section

variable {sign digits ending whole point fraction t rest : Text}

/-- A sign has **no digits**. -/
theorem digitsIn_sign (hsign : IsSign sign) : digitsIn sign = [] := by
  rcases hsign with rfl | ⟨c, hc, rfl⟩
  · rfl
  · simp only [CharKind.holds, Bool.or_eq_true, beq_iff_eq] at hc
    rcases hc with rfl | rfl <;> rfl

/-- An ordinal ending has **no digits**. -/
theorem digitsIn_ending (h : IsOrdinalEnding ending) : digitsIn ending = [] := by
  rcases h with rfl | ⟨e, he, hsame⟩
  · rfl
  · exact digitsIn_eq_nil fun c hc => isDecimalDigit_eq_false_of_ordinalEnding he hsame hc

/-- **The sign of a number** is the one in front of it. -/
theorem signIn_append (hsign : IsSign sign) (hrest : CharKind.sign.Stops rest) :
    signIn (sign ++ rest) = if sign == ['-'] then -1 else 1 := by
  rcases hsign with rfl | ⟨c, hc, rfl⟩
  · have hhead : rest.head? ≠ some '-' := by
      intro h
      exact absurd (hrest '-' h) (by decide)
    rw [List.nil_append, signIn, if_neg hhead]
    rfl
  · simp only [CharKind.holds, Bool.or_eq_true, beq_iff_eq] at hc
    rcases hc with rfl | rfl <;> rfl

/-! ### Integers -/

/-- What the pattern for integers matches is **a sign and digits**. -/
theorem exists_integer_of_matches (h : InlineKind.integerPattern.Matches t) :
    ∃ sign digits, t = sign ++ digits ∧ IsSign sign ∧ Numeric digits ∧ digits ≠ [] := by
  obtain ⟨sign, digits, rfl, hsign, hsome, hdigits⟩ := h
  exact ⟨sign, digits, rfl, matches_sign_iff.mp hsign, hdigits, List.length_pos_iff.mp hsome⟩

/-- A sign and digits **match the pattern** for integers. -/
theorem matches_integerPattern (hsign : IsSign sign) (hdigits : Numeric digits) (hne : digits ≠ []) :
    InlineKind.integerPattern.Matches (sign ++ digits) :=
  ⟨sign, digits, rfl, matches_sign_iff.mpr hsign, List.length_pos_iff.mpr hne, hdigits⟩

/-- What may stand behind the capture of an integer is **an ordinal ending**. -/
theorem matches_ending_iff :
    (Pattern.optional (.oneOf (ordinalEndings.map .literal))).Matches t ↔ IsOrdinalEnding t := by
  rw [Pattern.Matches, Pattern.matches_oneOf_iff (by decide), IsOrdinalEnding, or_comm]
  simp [Pattern.Matches]

/-- **A sign and digits convert** to the integer that they denote, unless there are too many digits. -/
theorem convert_integer (hsign : IsSign sign) (hdigits : Numeric digits) (hne : digits ≠ [])
    (hending : IsOrdinalEnding ending) (hlimit : (digitsIn (sign ++ digits ++ ending)).length ≤ integerDigitLimit) :
    Catalog.standard.convert (some .int) (some (sign ++ digits)) =
      .ok (.int (integerIn (sign ++ digits ++ ending))) := by
  have hin : digitsIn (sign ++ digits ++ ending) = digitsIn digits := by
    rw [digitsIn_append, digitsIn_append, digitsIn_sign hsign, digitsIn_ending hending, List.nil_append,
      List.append_nil]
  rw [hin, digitsIn, length_filterMap_decimalDigit? hdigits] at hlimit
  have hvalue : integerIn (sign ++ digits ++ ending) =
      if sign == ['-'] then -(numberOfDigits (digitsIn digits) : Int) else numberOfDigits (digitsIn digits) := by
    rw [integerIn, hin, List.append_assoc, signIn_append hsign (stops_sign hdigits hne)]
    split
    · rw [Int.neg_one_mul]
    · rw [Int.one_mul]
  have hread := read_integer sign hdigits hne (readInteger_of_sign hsign hdigits hne hlimit)
  rw [Catalog.convert_required rfl rfl, hread, hvalue]
  rfl

/-- What is written for an integer is **a sign and its digits**. -/
theorem exists_sign_ofInt (n : Int) : ∃ sign, IsSign sign ∧ Text.ofInt n = sign ++ Text.ofNat n.natAbs := by
  cases n with
  | ofNat n => exact ⟨[], .inl rfl, rfl⟩
  | negSucc n => exact ⟨['-'], .inr ⟨'-', rfl, rfl⟩, rfl⟩

/-- **An integer and any ordinal ending** are matched, and what is captured is the integer, which converts back. -/
theorem captured_ofInt {name : Text} (hname : '>' ∉ name) {n : Int} (hending : IsOrdinalEnding ending)
    (hlimit : (Text.ofNat n.natAbs).length ≤ integerDigitLimit) :
    ∃ way, Catalog.standard.fullMatch? (some .int) name (Text.ofInt n ++ ending) = some way ∧
      way.captured? name = some (Text.ofInt n) ∧
      Catalog.standard.convert (some .int) (some (Text.ofInt n)) = .ok (.int n) := by
  have hdigits : Numeric (Text.ofNat n.natAbs) := (digits_ofNat _).numeric
  have hne : Text.ofNat n.natAbs ≠ [] := Nat.toDigits_ne_nil
  have hread := readInteger_ofInt hlimit
  obtain ⟨sign, hsign, hwritten⟩ := exists_sign_ofInt n
  rw [hwritten] at hread ⊢
  have hmatches : (Pattern.seq (.capture name InlineKind.integerPattern)
      (.optional (.oneOf (ordinalEndings.map .literal)))).Matches (sign ++ Text.ofNat n.natAbs ++ ending) :=
    ⟨_, ending, rfl, matches_integerPattern hsign hdigits hne, matches_ending_iff.mpr hending⟩
  obtain ⟨way, hway⟩ := Option.isSome_iff_exists.mp (Pattern.fullMatch?_isSome_iff.mpr hmatches)
  refine ⟨way, ?_, ?_, ?_⟩
  · rw [Catalog.fullMatch?_required rfl rfl, ← hway]
    simp only [InlineKind.pattern, Pattern.named_eq_capture hname]
    rfl
  · obtain ⟨u, v, huv, hinner, hafter, hcaptured⟩ := Pattern.captured_of_fullMatch?_seq hway
    obtain ⟨sign', digits', rfl, hsign', hdigits', hne'⟩ := exists_integer_of_matches hinner
    rw [List.append_assoc, List.append_assoc] at huv
    rw [hcaptured, sign_digits_unique hsign hsign' hdigits hdigits' hne hne' hending (matches_ending_iff.mp hafter) huv]
  · rw [Catalog.convert_required rfl rfl, read_integer sign hdigits hne hread]
    rfl

/-! ### Numbers with a point -/

/-- The digits **around the point** are those in front of it and those behind it. -/
theorem digitsIn_around_point (hsign : IsSign sign) (h : NumberParts whole point fraction) :
    digitsIn ((sign ++ (whole ++ (point ++ fraction))).takeWhile (· != '.')) = digitsIn whole ∧
      digitsIn ((sign ++ (whole ++ (point ++ fraction))).dropWhile (· != '.')) = digitsIn fraction := by
  have hfront : ∀ c ∈ sign ++ whole, (c != '.') = true := by
    intro c hc
    rw [bne_iff_ne]
    rcases List.mem_append.mp hc with hc | hc
    · rcases hsign with rfl | ⟨d, hd, rfl⟩
      · exact absurd hc List.not_mem_nil
      · rw [List.mem_singleton.mp hc]
        rintro rfl
        exact absurd hd (by decide)
    · exact ne_of_isDecimalDigit (h.numericWhole c hc) rfl
  rw [← List.append_assoc, List.takeWhile_append_of_pos hfront, List.dropWhile_append_of_pos hfront]
  rcases h.pointed with ⟨rfl, rfl⟩ | rfl
  · exact ⟨by simp [digitsIn_append, digitsIn_sign hsign], rfl⟩
  · exact ⟨by simp [digitsIn_append, digitsIn_sign hsign], rfl⟩

/-- **A sign and the parts of a number convert** to the decimal number that they denote. -/
theorem convert_decimal (hsign : IsSign sign) (h : NumberParts whole point fraction) :
    ∃ d, Catalog.standard.convert (some .decimal) (some (sign ++ (whole ++ (point ++ fraction)))) = .ok (.decimal d) ∧
      d.value? = some (rationalIn (sign ++ (whole ++ (point ++ fraction)))) := by
  refine ⟨.finite (sign == ['-']) (numberOfDigits (digitsIn whole ++ digitsIn fraction)) (-fraction.length), ?_, ?_⟩
  · rw [Catalog.convert_required rfl rfl]
    simp only [InlineKind.read, Value.readDecimal, Decimal.read?_eq hsign h]
    rfl
  · obtain ⟨hwhole, hfraction⟩ := digitsIn_around_point hsign h
    have hcount : (digitsIn fraction).length = fraction.length := length_filterMap_decimalDigit? h.numericFraction
    have hfactor : ((signIn (sign ++ (whole ++ (point ++ fraction))) : Int) : ℚ) =
        if sign == ['-'] then -1 else 1 := by
      rw [signIn_append hsign h.stops_sign]
      split <;> rfl
    rw [Decimal.value?, rationalIn, hwhole, hfraction, hfactor, hcount, numberOfDigits_append, hcount, zpow_neg,
      zpow_natCast]
    push_cast
    field_simp

end

/-! ### Captured numbers -/

/-- **Captured numbers convert to the numbers written.** Whatever text the fragment of a type of numbers matches, the
conversion of the capture succeeds. For integers and decimal numbers its value is the one that the text denotes;
integers must not have more digits than are read. An integer that is written out, with any ordinal ending behind it,
is captured and converts back. -/
theorem Catalog.convert_captured_number {name : Text} (hname : isIdentifier name = true) (t : Text) :
    (∀ way, standard.fullMatch? (some .int) name t = some way → (digitsIn t).length ≤ integerDigitLimit →
      ∃ u, way.captured? name = some u ∧ standard.convert (some .int) (some u) = .ok (.int (integerIn t))) ∧
    (∀ way, standard.fullMatch? (some .real) name t = some way →
      ∃ u bits, way.captured? name = some u ∧ standard.convert (some .real) (some u) = .ok (.real bits)) ∧
    (∀ way, standard.fullMatch? (some .decimal) name t = some way →
      ∃ u d, way.captured? name = some u ∧ standard.convert (some .decimal) (some u) = .ok (.decimal d) ∧
        d.value? = some (rationalIn t)) ∧
    (∀ n ending, (Text.ofNat n.natAbs).length ≤ integerDigitLimit → IsOrdinalEnding ending →
      ∃ way, standard.fullMatch? (some .int) name (Text.ofInt n ++ ending) = some way ∧
        way.captured? name = some (Text.ofInt n) ∧
        standard.convert (some .int) (some (Text.ofInt n)) = .ok (.int n)) := by
  have hbracket := not_mem_of_isIdentifier hname
  refine ⟨?_, ?_, ?_, fun n ending hlimit hending => captured_ofInt hbracket hending hlimit⟩
  · intro way hway hlimit
    rw [fullMatch?_required rfl rfl] at hway
    simp only [InlineKind.pattern, Pattern.named_eq_capture hbracket] at hway
    obtain ⟨u, v, rfl, hinner, hafter, hcaptured⟩ := Pattern.captured_of_fullMatch?_seq hway
    obtain ⟨sign, digits, rfl, hsign, hdigits, hne⟩ := exists_integer_of_matches hinner
    exact ⟨_, hcaptured, convert_integer hsign hdigits hne (matches_ending_iff.mp hafter) hlimit⟩
  · intro way hway
    obtain ⟨hinner, hcaptured⟩ := captured_of_fullMatch? hbracket rfl rfl rfl hway
    obtain ⟨sign, whole, point, fraction, rfl, hsign, hparts⟩ := exists_real_of_matches hinner
    obtain ⟨bits, hread⟩ := Binary64.exists_read? hsign hparts
    refine ⟨_, bits, hcaptured, ?_⟩
    rw [convert_required rfl rfl]
    simp only [InlineKind.read, Value.readReal, hread]
    rfl
  · intro way hway
    obtain ⟨hinner, hcaptured⟩ := captured_of_fullMatch? hbracket rfl rfl rfl hway
    obtain ⟨sign, whole, point, fraction, rfl, hsign, hparts⟩ := exists_real_of_matches hinner
    obtain ⟨d, hconvert, hvalue⟩ := convert_decimal hsign hparts
    exact ⟨_, d, hcaptured, hconvert, hvalue⟩

/-- An **ordinal number**, a number that begins with a point, one in digits of two scripts, and an integer that is
written out. -/
theorem Catalog.convert_captured_number_read :
    (∃ way u, standard.fullMatch? (some .int) "size" "-42ND" = some way ∧ way.captured? "size" = some u ∧
      standard.convert (some .int) (some u) = .ok (.int (-42))) ∧
    (∃ way u bits, standard.fullMatch? (some .real) "size" "+.5" = some way ∧ way.captured? "size" = some u ∧
      standard.convert (some .real) (some u) = .ok (.real bits)) ∧
    (∃ way u d, standard.fullMatch? (some .decimal) "size" "-١.5" = some way ∧ way.captured? "size" = some u ∧
      standard.convert (some .decimal) (some u) = .ok (.decimal d) ∧ d.value? = some (-3 / 2)) ∧
    (∃ way, standard.fullMatch? (some .int) "size" (Text.ofInt (-7) ++ "Th") = some way ∧
      way.captured? "size" = some (Text.ofInt (-7)) ∧
      standard.convert (some .int) (some (Text.ofInt (-7))) = .ok (.int (-7))) := by
  have hname : isIdentifier "size" = true := by decide
  refine ⟨?_, ?_, ?_, ?_⟩
  · obtain ⟨u, hcaptured, hconvert⟩ := (convert_captured_number hname "-42ND").1
      ⟨[], [⟨"size", "-42ND", "ND"⟩]⟩ (by decide) (by decide)
    exact ⟨_, u, by decide, hcaptured, hconvert⟩
  · obtain ⟨u, bits, hcaptured, hconvert⟩ := (convert_captured_number hname "+.5").2.1
      ⟨[], [⟨"size", "+.5", []⟩]⟩ (by decide)
    exact ⟨_, u, bits, by decide, hcaptured, hconvert⟩
  · obtain ⟨u, d, hcaptured, hconvert, hvalue⟩ := (convert_captured_number hname "-١.5").2.2.1
      ⟨[], [⟨"size", "-١.5", []⟩]⟩ (by decide)
    refine ⟨_, u, d, by decide, hcaptured, hconvert, ?_⟩
    have hsign : signIn "-١.5" = -1 := by decide
    have hwhole : digitsIn (List.takeWhile (· != '.') "-١.5") = [1] := by decide
    have hfraction : digitsIn (List.dropWhile (· != '.') "-١.5") = [5] := by decide
    rw [hvalue, rationalIn, hsign, hwhole, hfraction]
    norm_num [numberOfDigits]
  · exact (convert_captured_number hname "").2.2.2 (-7) "Th" (by decide) (.inr ⟨"th", by decide, by decide⟩)

end PlainSpec
