import PlainSpec.Text.Case

/-!
# Letters up to case

Words of a phrase and keywords of a language are found at the beginning of a text whatever their case.
What is found need not be the word itself, but it has the same letters.

## Main results

* `Text.afterPrefixFold?_eq_some_iff`: what follows a beginning, up to case.
-/

namespace PlainSpec

namespace Text

/-- A text has **its own letters**. -/
theorem sameLetters_refl (t : Text) : sameLetters t t = true := by
  induction t with
  | nil => rfl
  | cons c t ih => rw [sameLetters, sameLetter_refl, ih, Bool.and_self]

/-- What follows a beginning stands behind a text with the **same letters** up to case. -/
theorem afterPrefixFold?_eq_some_iff {p t rest : Text} :
    afterPrefixFold? p t = some rest ↔
      ∃ u, t = u ++ rest ∧ sameLetters p u = true := by
  induction p generalizing t with
  | nil =>
      rw [afterPrefixFold?, Option.some.injEq]
      constructor
      · rintro rfl
        exact ⟨[], rfl, rfl⟩
      · rintro ⟨_ | ⟨c, u⟩, rfl, hu⟩
        · rfl
        · exact absurd hu (by simp [sameLetters])
  | cons a p ih =>
      cases t with
      | nil =>
          constructor
          · intro h
            exact absurd h (by simp [afterPrefixFold?])
          · rintro ⟨u, hu, hsame⟩
            rw [List.append_eq_nil_iff.mp hu.symm |>.1] at hsame
            exact absurd hsame (by simp [sameLetters])
      | cons b t =>
          rw [afterPrefixFold?]
          constructor
          · intro h
            split at h
            · next hab =>
              obtain ⟨u, rfl, hu⟩ := ih.mp h
              exact ⟨b :: u, rfl, by rw [sameLetters, hab, hu, Bool.and_self]⟩
            · exact absurd h (by simp)
          · rintro ⟨_ | ⟨c, u⟩, hu, hsame⟩
            · exact absurd hsame (by simp [sameLetters])
            obtain ⟨rfl, rfl⟩ := List.cons.inj hu
            rw [sameLetters, Bool.and_eq_true] at hsame
            rw [if_pos hsame.1]
            exact ih.mpr ⟨u, rfl, hsame.2⟩

/-- Texts with the same letters at their beginnings are compared **from there on**. -/
theorem afterPrefixFold?_append_append {p w : Text} (h : sameLetters p w = true) (u t : Text) :
    afterPrefixFold? (p ++ u) (w ++ t) = afterPrefixFold? u t := by
  induction p generalizing w with
  | nil =>
      cases w with
      | nil => rfl
      | cons c w => exact absurd h (by simp [sameLetters])
  | cons a p ih =>
      cases w with
      | nil => exact absurd h (by simp [sameLetters])
      | cons c w =>
          rw [sameLetters, Bool.and_eq_true] at h
          rw [List.cons_append, List.cons_append, afterPrefixFold?, if_pos h.1, ih h.2]

/-- A text is found **in front of** whatever follows it. -/
theorem afterPrefixFold?_append (p rest : Text) : afterPrefixFold? p (p ++ rest) = some rest :=
  afterPrefixFold?_eq_some_iff.mpr ⟨p, rfl, sameLetters_refl p⟩

end Text

end PlainSpec
