import PlainSpec.Proofs.PatternLanguage
import PlainSpec.Proofs.TokenValues

/-!
# Numbers that a pattern has matched

What the pattern for numbers matches is a sign, digits of any script, and perhaps a point with digits around it.
Such a text is read as a decimal number: the limits of these bear on exponents, and the pattern matches none.

## Main results

* `exists_real_of_matches`: what the pattern for numbers matches.
* `Decimal.read?_eq`: it is a decimal number, which keeps every digit.
-/

namespace PlainSpec

/-! ### What the pattern for numbers matches -/

/-- At most one character of the kind is **a sign**, or none. -/
theorem matches_sign_iff {t : Text} : (Pattern.chars .sign .maybe).Matches t ↔ IsSign t := by
  constructor
  · rintro ⟨hmaybe, hsigns⟩
    rcases t with _ | ⟨c, _ | ⟨d, t⟩⟩
    · exact .inl rfl
    · exact .inr ⟨c, hsigns c List.mem_cons_self, rfl⟩
    · exact absurd hmaybe (by simp [Quantity.Admits])
  · rintro (rfl | ⟨c, hc, rfl⟩)
    · exact ⟨Nat.zero_le 1, fun c hc => absurd hc List.not_mem_nil⟩
    · exact ⟨Nat.le_refl 1, fun d hd => List.mem_singleton.mp hd ▸ hc⟩

/-- **What the pattern for numbers matches** is a sign and the parts of a number. -/
theorem exists_real_of_matches {t : Text} (h : InlineKind.realPattern.Matches t) :
    ∃ sign whole point fraction, t = sign ++ (whole ++ (point ++ fraction)) ∧ IsSign sign ∧
      NumberParts whole point fraction := by
  have hpoint : ∀ u : Text, (Pattern.literal ".").Matches u → u = ['.'] := by
    intro u hu
    rcases u with _ | ⟨c, _ | ⟨d, u⟩⟩
    · exact absurd hu (by simp [Pattern.Matches, Text.sameLetters])
    · have hsame : sameLetter '.' c = true := by simpa [Pattern.Matches, Text.sameLetters] using hu
      rw [eq_of_sameLetter (a := '.') (by decide) (by decide) hsame]
    · exact absurd hu (by simp [Pattern.Matches, Text.sameLetters])
  obtain ⟨sign, body, rfl, hsign, hbody⟩ := h
  have hsign := matches_sign_iff.mp hsign
  rcases hbody with ⟨whole, rest, rfl, ⟨hsome, hwhole⟩, hrest⟩ | ⟨point, fraction, rfl, hdot, hsome, hfraction⟩
  · have hsome : 1 ≤ whole.length := hsome
    rcases hrest with ⟨point, fraction, rfl, hdot, -, hfraction⟩ | rfl
    · obtain rfl := hpoint point hdot
      exact ⟨sign, whole, ['.'], fraction, rfl, hsign, ⟨hwhole, hfraction, .inr rfl, by omega⟩⟩
    · exact ⟨sign, whole, [], [], rfl, hsign,
        ⟨hwhole, fun _ hc => absurd hc (by simp), .inl ⟨rfl, rfl⟩, by omega⟩⟩
  · have hsome : 1 ≤ fraction.length := hsome
    obtain rfl := hpoint point hdot
    exact ⟨sign, [], ['.'], fraction, rfl, hsign,
      ⟨fun _ hc => absurd hc (by simp), hfraction, .inr rfl, by omega⟩⟩

section

variable {sign whole point fraction : Text}

/-- The parts of a number name **no infinity**: no digit and no point is a letter in another case. -/
theorem NumberParts.namesInfinity_eq_false (h : NumberParts whole point fraction) :
    namesInfinity (whole ++ (point ++ fraction)) = false := by
  have hhead : ∀ c u, isDecimalDigit c = true ∨ c = '.' → namesInfinity (c :: u) = false := by
    intro c u hc
    have hletter : c.toLower ≠ 'i' := by
      intro hlower
      have hcase : c = 'I' ∨ c = 'i' := by
        unfold Char.toLower at hlower
        split at hlower
        · have hsum : c.val + ('a'.val - 'A'.val) = 'i'.val := congrArg Char.val hlower
          refine .inl (Char.ext ?_)
          rw [show c.val = 'i'.val - ('a'.val - 'A'.val) by rw [← hsum, UInt32.add_sub_cancel]]
          decide
        · exact .inr hlower
      rcases hc with hc | rfl
      · rcases hcase with rfl | rfl <;> exact absurd hc (by decide)
      · exact absurd hcase (by decide)
    simp [namesInfinity, hletter]
  rcases whole with _ | ⟨c, whole⟩
  · rcases h.pointed with ⟨rfl, rfl⟩ | rfl
    · exact absurd h.nonempty (by simp)
    · exact hhead '.' _ (.inr rfl)
  · exact hhead c _ (.inl (h.numericWhole c List.mem_cons_self))

/-- The parts of a number have **no exponent** among them. -/
theorem NumberParts.any_isExponentMark_eq_false (h : NumberParts whole point fraction) :
    (whole ++ (point ++ fraction)).any isExponentMark = false := by
  have hdigit : ∀ c, isDecimalDigit c = true → isExponentMark c = false := by
    intro c hc
    have hlower : c ≠ 'e' := ne_of_isDecimalDigit hc rfl
    have hupper : c ≠ 'E' := ne_of_isDecimalDigit hc rfl
    simp [isExponentMark, hlower, hupper]
  rw [List.any_eq_false]
  simp only [List.mem_append, Bool.not_eq_true]
  rintro c (hc | hc | hc)
  · exact hdigit c (h.numericWhole c hc)
  · rcases h.pointed with ⟨rfl, -⟩ | rfl
    · exact absurd hc List.not_mem_nil
    · obtain rfl := List.mem_singleton.mp hc
      rfl
  · exact hdigit c (h.numericFraction c hc)

/-- **A sign and the parts of a number are a decimal number**, which keeps every digit. -/
theorem Decimal.read?_eq (hsign : IsSign sign) (h : NumberParts whole point fraction) :
    read? (sign ++ (whole ++ (point ++ fraction))) =
      some (.finite (sign == ['-'])
        (numberOfDigits (whole.filterMap decimalDigit? ++ fraction.filterMap decimalDigit?)) (-fraction.length)) := by
  have hplain := fun c hc => NumberParts.plain hsign h (c := c) hc
  have htake := takeSign_append hsign h.stops_sign
  have hnumeral := h.readNumeral?_eq
  have hfinite := h.namesInfinity_eq_false
  have hexponent := h.any_isExponentMark_eq_false
  generalize sign ++ (whole ++ (point ++ fraction)) = t at hplain htake
  have htrim : Text.trim t = t := (Text.trim_eq_self_iff t).mpr
    ⟨fun c hc => (hplain c (List.mem_of_mem_head? hc)).1, fun c hc => (hplain c (List.mem_of_mem_getLast? hc)).1⟩
  have hfilter : t.filter (· != '_') = t :=
    List.filter_eq_self.mpr fun c hc => bne_iff_ne.mpr (hplain c hc).2
  simp only [read?, htrim, hfilter, htake, hfinite, hnumeral, hexponent, Bool.not_false, Bool.true_or,
    Bool.false_eq_true, if_false, if_true]

end

end PlainSpec
