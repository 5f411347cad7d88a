import Mathlib.Data.List.Basic
import PlainSpec.Inline.Kind
import PlainSpec.Proofs.DecimalDigits

/-!
# Letters and their variants

Patterns compare letters by the one that stands for all their variants, while words are recognised by their lower
case. The two agree for most letters, but not for all: the long s is a variant of s and has a lower case of its own,
a capital sigma has two lower cases, and the dotted capital I is lowered to two characters.

## Main results

* `Text.sameLetters_iff_map`: texts with the same letters are folded to the same text.
* `Text.lower_eq_lower_iff`: where letters fold by lowering, texts with the same letters have the same lower case.
* `Text.sameLetters_of_lower_eq`: a text that is lowered to a word has its letters.
* `foldsByLowering_of_sameLetter`: the letters whose variants fold by lowering.
* `isDecimalDigit_eq_false_of_ordinalEnding`: ordinal endings have no digits, whatever their case.
-/

namespace PlainSpec

/-! ### Single letters -/

/-- A character **folds by lowering** if its lower case, wherever it stands, is the letter that stands for all its
variants. -/
def FoldsByLowering (c : Char) : Prop := c ≠ 'Σ' ∧ c ≠ 'İ' ∧ foldCase c = lowerChar c

instance (c : Char) : Decidable (FoldsByLowering c) := inferInstanceAs (Decidable (_ ∧ _ ∧ _))

/-- Lowering a character **keeps the letter**. -/
theorem sameLetter_lowerChar (c : Char) : sameLetter c (lowerChar c) = true := by
  rw [sameLetter_iff, foldCase, foldCase, lowerChar_lowerChar]

/-- The letter that stands for the variants of a character is its lower case, **or the variants are listed**. -/
theorem foldCase_eq_or (c : Char) :
    foldCase c = lowerChar c ∨
      ∃ entry ∈ letterVariants, (lowerChar c).toNat = entry.1 ∧ foldCase c = Char.ofNat entry.2 := by
  rw [foldCase]
  rcases hlookup : letterVariants.lookup (lowerChar c).toNat with _ | n
  · exact .inl rfl
  · obtain ⟨before, after, hentries, -⟩ := List.lookup_eq_some_iff.mp hlookup
    refine .inr ⟨((lowerChar c).toNat, n), ?_, rfl, rfl⟩
    rw [hentries]
    exact List.mem_append_right _ List.mem_cons_self

/-- **The variants of a letter fold by lowering** if it has none that are listed. The letters i and sigma are among
those that have. -/
theorem foldsByLowering_of_sameLetter {a c : Char} (h : sameLetter a c = true)
    (hdotted : foldCase a ≠ 'i') (hsigma : foldCase a ≠ 'σ')
    (hvariants : ∀ entry ∈ letterVariants, Char.ofNat entry.2 = foldCase a → (lowerChar c).toNat ≠ entry.1) :
    FoldsByLowering c := by
  have hfold : foldCase a = foldCase c := sameLetter_iff.mp h
  refine ⟨?_, ?_, ?_⟩
  · rintro rfl
    exact hsigma (hfold.trans (by decide))
  · rintro rfl
    exact hdotted (hfold.trans (by decide))
  · rcases foldCase_eq_or c with hlower | ⟨entry, hentry, hkey, hvalue⟩
    · exact hlower
    · exact absurd hkey (hvariants entry hentry (hvalue.symm.trans hfold.symm))

/-- The variants of a letter are **all white space** or none of them is. -/
theorem isBlank_foldCase (c : Char) : isBlank (foldCase c) = isBlank c := by
  cases hc : isBlank c with
  | true => exact forall_isBlank (p := fun c => isBlank (foldCase c)) (by decide +kernel) hc
  | false =>
      rcases foldCase_eq_or c with hlower | ⟨entry, hentry, -, hvalue⟩
      · rw [hlower, isBlank_lowerChar hc]
      · have hall : ∀ entry ∈ letterVariants, isBlank (Char.ofNat entry.2) = false := by decide +kernel
        rw [hvalue, hall entry hentry]

/-- The same letters are **white space together**. -/
theorem isBlank_eq_of_sameLetter {a c : Char} (h : sameLetter a c = true) : isBlank a = isBlank c := by
  rw [← isBlank_foldCase a, sameLetter_iff.mp h, isBlank_foldCase]

/-- A character that **no run leads to** is the lower case of none but itself. -/
theorem eq_of_lowerChar_eq {a c : Char} (hpos : 0 < a.toNat)
    (hruns : caseRuns.all (fun run => !run.covers (a.toNat - run.shift).toNat) = true) (h : lowerChar c = a) :
    c = a := by
  rw [lowerChar_eq, shiftBy] at h
  split at h
  · next run hfind =>
    have hcode : (c.toNat + run.shift).toNat = a.toNat := by
      by_cases hvalid : (c.toNat + run.shift).toNat.isValidChar
      · rw [← h, toNat_ofNat hvalid]
      · rw [Char.ofNat, dif_neg hvalid] at h
        exact absurd hpos (by rw [← h]; decide)
    have hback : (a.toNat - run.shift).toNat = c.toNat := by omega
    have hapart := List.all_eq_true.mp hruns run (List.mem_of_find?_eq_some hfind)
    rw [hback, List.find?_some hfind] at hapart
    exact absurd hapart (by decide)
  · rwa [Char.ofNat_toNat] at h

namespace Text

/-- Texts have the same letters exactly if they are **folded to the same text**. -/
theorem sameLetters_iff_map {u v : Text} : sameLetters u v = true ↔ u.map foldCase = v.map foldCase := by
  induction u generalizing v with
  | nil => cases v <;> simp [sameLetters]
  | cons a u ih =>
      cases v with
      | nil => simp [sameLetters]
      | cons b v =>
          rw [sameLetters, Bool.and_eq_true, sameLetter_iff, ih, List.map_cons, List.map_cons, List.cons.injEq]

/-- Behind the same beginning, texts with the same letters **go on with the same letters**. -/
theorem afterPrefixFold?_congr {u v : Text} (h : u.map foldCase = v.map foldCase) (p : Text) :
    (afterPrefixFold? p u).map (List.map foldCase) = (afterPrefixFold? p v).map (List.map foldCase) := by
  induction p generalizing u v with
  | nil => exact congrArg some h
  | cons a p ih =>
      cases u with
      | nil =>
          obtain rfl := List.map_eq_nil_iff.mp h.symm
          rfl
      | cons b u =>
          obtain ⟨c, v, rfl, hc, hrest⟩ := List.map_eq_cons_iff.mp h.symm
          rw [afterPrefixFold?, afterPrefixFold?, sameLetter, sameLetter, hc]
          split
          · exact ih hrest.symm
          · rfl

/-- The lower case of letters that fold by lowering is **the folded text**. -/
theorem lower_eq_map {t : Text} (h : ∀ c ∈ t, FoldsByLowering c) : lower t = t.map foldCase := by
  have hafter : ∀ before, lowerAfter before t = t.map foldCase := by
    induction t with
    | nil => exact fun before => rfl
    | cons c t ih =>
        obtain ⟨⟨hsigma, hdotted, hfold⟩, ht⟩ := List.forall_mem_cons.mp h
        intro before
        rw [lowerAfter, lowerWithin, if_neg hsigma, if_neg hdotted, ih ht, List.map_cons, hfold,
          List.singleton_append]
  exact hafter []

/-- **Where letters fold by lowering**, comparing texts up to case is comparing their lower cases. -/
theorem lower_eq_lower_iff {u v : Text} (hu : ∀ c ∈ u, FoldsByLowering c) (hv : ∀ c ∈ v, FoldsByLowering c) :
    lower u = lower v ↔ sameLetters u v = true := by
  rw [lower_eq_map hu, lower_eq_map hv, sameLetters_iff_map]

/-- A letter of a text is the same as **one of a text with the same letters**. -/
theorem exists_sameLetter {u v : Text} (h : sameLetters u v = true) {c : Char} (hc : c ∈ v) :
    ∃ a ∈ u, sameLetter a c = true := by
  have hmem : foldCase c ∈ u.map foldCase := by
    rw [sameLetters_iff_map.mp h]
    exact List.mem_map_of_mem hc
  obtain ⟨a, ha, hfold⟩ := List.mem_map.mp hmem
  exact ⟨a, ha, sameLetter_iff.mpr hfold⟩

/-- What a character of a text is lowered to **wherever it stands** is in the lowered text. -/
theorem mem_lower_of_mem {t : Text} {c d : Char} (hc : c ∈ t) (h : ∀ before after, d ∈ lowerWithin before c after) :
    d ∈ lower t := by
  have hafter : ∀ before, d ∈ lowerAfter before t := by
    induction t with
    | nil => exact absurd hc List.not_mem_nil
    | cons b t ih =>
        intro before
        rw [lowerAfter]
        rcases List.mem_cons.mp hc with rfl | hc
        · exact List.mem_append_left _ (h before t)
        · exact List.mem_append_right _ (ih hc _)
  exact hafter []

/-- All characters but the dotted capital I are lowered **letter by letter**. -/
theorem lowersAlone_of_ne {c : Char} (h : c ≠ 'İ') : LowersAlone c := by
  by_cases hsigma : c = 'Σ'
  · subst hsigma
    decide
  · refine ⟨lowerChar c, ?_, sameLetter_lowerChar c⟩
    rw [lower, lowerAfter, lowerAfter, lowerWithin, if_neg hsigma, if_neg h, List.append_nil]

/-- **A text that is lowered to a word** without an i has the letters of the word. -/
theorem sameLetters_of_lower_eq {w t : Text} (hw : 'i' ∉ w) (h : lower t = w) : sameLetters w t = true := by
  rw [← h]
  refine sameLetters_lower fun c hc => lowersAlone_of_ne ?_
  rintro rfl
  refine hw (h ▸ mem_lower_of_mem hc fun before after => ?_)
  rw [lowerWithin, if_neg (by decide), if_pos rfl]
  exact List.mem_cons_self

end Text

/-! ### Ordinal endings -/

/-- An ordinal ending has **no digits**, whatever its case. -/
theorem isDecimalDigit_eq_false_of_ordinalEnding {e u : Text} (he : e ∈ ordinalEndings)
    (hsame : Text.sameLetters e u = true) {c : Char} (hc : c ∈ u) : isDecimalDigit c = false := by
  have hletters : ∀ e ∈ ordinalEndings, e.Forall fun a => isDecimalDigit (foldCase a) = false := by decide
  obtain ⟨a, ha, hletter⟩ := Text.exists_sameLetter hsame hc
  refine Bool.eq_false_iff.mpr fun hdigit => Bool.false_ne_true ?_
  rw [← hletter, sameLetter_of_isDecimalDigit hdigit (List.forall_iff_forall_mem.mp (hletters e he) a ha)]

/-! ### The word for nothing -/

/-- **The word for nothing is matched** by what is lowered to it, and by nothing else. -/
theorem sameLetters_null_iff {t : Text} : Text.sameLetters nullWord t = true ↔ Text.lower t = nullWord := by
  have hletters : ∀ a ∈ nullWord, FoldsByLowering a ∧ foldCase a ≠ 'i' ∧ foldCase a ≠ 'σ' ∧
      ∀ entry ∈ letterVariants, Char.ofNat entry.2 ≠ foldCase a :=
    List.forall_iff_forall_mem.mp (by decide)
  constructor
  · intro h
    have ht : ∀ c ∈ t, FoldsByLowering c := by
      intro c hc
      obtain ⟨a, ha, hsame⟩ := Text.exists_sameLetter h hc
      obtain ⟨-, hdotted, hsigma, hvariants⟩ := hletters a ha
      exact foldsByLowering_of_sameLetter hsame hdotted hsigma fun entry hentry heq =>
        absurd heq (hvariants entry hentry)
    rw [← (Text.lower_eq_lower_iff (fun a ha => (hletters a ha).1) ht).mpr h]
    decide
  · exact Text.sameLetters_of_lower_eq (by decide)

end PlainSpec
