import PlainSpec.Proofs.LetterCase
import PlainSpec.Text.Blank
import PlainSpec.Text.Word

/-!
# Lowered texts

Lowering shifts the characters in certain ranges. No shift leads into the range of another one, into white
space or to an underscore, which is a matter of the bounds of the ranges alone. So a lowered text is left
alone by lowering it again, and a word stays one word.

## Main results

* `lowerChar_lowerChar`, `Text.lowerChar_of_mem_lower`: what has been lowered is lowered no further.
* `Text.lower_eq_self`: a text of such characters is its own lower case.
* `Text.all_lower`: what lowering keeps of each character it keeps of a text.
* `Text.sameLetters_lower`: where every letter is lowered to the same letter, so is the text.
-/

namespace PlainSpec

/-! ### The ranges of the case mapping -/

namespace CaseRun

variable {run other : CaseRun} {others : List CaseRun} {pages : List (Nat × Nat)} {page : Nat × Nat}
variable {low high n : Nat}

/-- Whether a run that leads from `low` up to `high` **stays out** of the range of another one. Where both go
in steps of two, one may pass between the characters of the other. -/
def staysOut (run : CaseRun) (low high : Nat) (other : CaseRun) : Bool :=
  Nat.blt high other.first || Nat.blt other.last low ||
    ((run.step == 2 || run.first == run.last) && other.step == 2 && (low + other.first) % 2 == 1)

/-- Whether a run is **on a page**, which is a range of code points. -/
def isOn (page : Nat × Nat) (run : CaseRun) : Bool := Nat.ble page.1 run.first && Nat.ble run.last page.2

/-- Whether a run that leads from `low` up to `high` stays out of the ranges of the runs **on a page**. These
are looked through only where the run leads to this page, as there are many. -/
def staysOutOf (run : CaseRun) (low high : Nat) (others : List CaseRun) (page : Nat × Nat) : Bool :=
  Nat.blt high page.1 || Nat.blt page.2 low || (others.filter (isOn page)).all (run.staysOut low high)

/-- Whether all that a run leads to is out of the ranges of **other runs**, page by page, and neither beyond
the code points nor before them. -/
def settles (pages : List (Nat × Nat)) (others : List CaseRun) (run : CaseRun) : Bool :=
  match (run.first + run.shift).toNat, (run.last + run.shift).toNat with
  | low + 1, high + 1 =>
    Nat.ble high 0x10FFFE && pages.all (run.staysOutOf (low + 1) (high + 1) others)
  | _, _ => false

/-- A run **covers** the characters between its bounds that its steps meet. -/
theorem covers_iff : run.covers n = true ↔
    run.first ≤ n ∧ n ≤ run.last ∧ (n - run.first) % run.step = 0 := by
  simp [covers, and_assoc]

/-- What a run leads to is **covered by no other run** that it stays out of. -/
theorem covers_of_staysOut (hcovers : run.covers n = true) (hlow : (low + 1 : Int) = run.first + run.shift)
    (hhigh : (high + 1 : Int) = run.last + run.shift)
    (h : run.staysOut (low + 1) (high + 1) other = true) :
    other.covers (n + run.shift).toNat = false := by
  obtain ⟨hfirst, hlast, hstep⟩ := covers_iff.mp hcovers
  rw [← Bool.not_eq_true, covers_iff]
  simp only [staysOut, Bool.or_eq_true, Bool.and_eq_true, Nat.blt_eq, beq_iff_eq] at h
  rintro ⟨hfirst', hlast', hstep'⟩
  rcases h with (h | h) | ⟨⟨hrun, hother⟩, hparity⟩
  · omega
  · omega
  · rw [hother] at hstep'
    rcases hrun with hrun | hrun
    · rw [hrun] at hstep
      omega
    · omega

/-- A run stays out of **each run** on a page that it stays out of. -/
theorem staysOut_of_isOn (h : run.staysOutOf low high others page = true) (hother : other ∈ others)
    (hon : other.isOn page = true) : run.staysOut low high other = true := by
  obtain ⟨hfirst, hlast⟩ := Bool.and_eq_true_iff.mp hon
  have hfirst := Nat.ble_eq.mp hfirst
  have hlast := Nat.ble_eq.mp hlast
  simp only [staysOutOf, Bool.or_eq_true, Nat.blt_eq] at h
  simp only [staysOut, Bool.or_eq_true, Nat.blt_eq]
  rcases h with (h | h) | h
  · exact .inl (.inl (Nat.lt_of_lt_of_le h hfirst))
  · exact .inl (.inr (Nat.lt_of_le_of_lt hlast h))
  · simpa [staysOut] using List.all_eq_true.mp h other (List.mem_filter.mpr ⟨hother, hon⟩)

/-- A run that **settles** leads to a code point that is covered by none of the others, if these are all on
pages. -/
theorem covers_of_settles (h : run.settles pages others = true)
    (hpages : ∀ other ∈ others, ∃ page ∈ pages, other.isOn page = true) (hcovers : run.covers n = true) :
    (n + run.shift).toNat < 0x110000 ∧ ∀ other ∈ others, other.covers (n + run.shift).toNat = false := by
  unfold settles at h
  split at h
  · next low high hlow hhigh =>
    obtain ⟨hle, hall⟩ := Bool.and_eq_true_iff.mp h
    have hrange := covers_iff.mp hcovers
    refine ⟨?_, fun other hother => ?_⟩
    · have := Nat.ble_eq.mp hle
      omega
    · obtain ⟨page, hpage, hon⟩ := hpages other hother
      have hout := staysOut_of_isOn (List.all_eq_true.mp hall page hpage) hother hon
      exact covers_of_staysOut hcovers (by omega) (by omega) hout
  · exact absurd h Bool.false_ne_true

end CaseRun

/-- The **capitals of ASCII**, as a run. -/
def asciiRun : CaseRun := ⟨65, 90, 1, 32⟩

/-- The case mapping **together with ASCII**. -/
def caseRuns : List CaseRun := asciiRun :: lowerRuns

/-- What lowering **never leads to**: code points that are no characters, all of ASCII up to the capitals
and the underscore, white space, and what is to be lowered itself. -/
def neverLowered : List CaseRun :=
  ⟨0xD800, 0xDFFF, 1, 0⟩ :: ⟨0, 96, 1, 0⟩ ::
    (blankRanges.map fun range => ⟨range.1, range.2, 1, 0⟩) ++ caseRuns

/-- **Pages** of the case mapping, with a dozen runs or so on each. -/
def casePages : List (Nat × Nat) :=
  [(0, 0x17F), (0x180, 0x19F), (0x1A0, 0x1BF), (0x1C0, 0x21F), (0x220, 0x37F), (0x380, 0x3FF),
    (0x400, 0x167F), (0x1680, 0x1F7F), (0x1F80, 0x1FEF), (0x1FF0, 0x24AF), (0x24B0, 0x2C7F),
    (0x2C80, 0xA78F), (0xA790, 0xA7CF), (0xA7D0, 0x16E3F), (0x16E40, 0x10FFFF)]

/-- **What is checked of the tables**, run by run and character by character: every run settles, every run is
on a page, the runs other than that of ASCII begin beyond ASCII, and this one does what lowering does there. -/
theorem caseRuns_checked : caseRuns.all (CaseRun.settles casePages neverLowered) = true ∧
    neverLowered.all (fun run => casePages.any (CaseRun.isOn · run)) = true ∧
    lowerRuns.all (fun run => Nat.ble 0x80 run.first) = true ∧
    ∀ n < 0x80, lowerChar (Char.ofNat n) = Char.ofNat (shiftBy [asciiRun] n) := by decide +kernel

/-- A code point that no run covers is **left alone**. -/
theorem shiftBy_of_covers {runs : List CaseRun} {n : Nat} (h : ∀ run ∈ runs, run.covers n = false) :
    shiftBy runs n = n := by
  have hfind : runs.find? (·.covers n) = none :=
    List.find?_eq_none.mpr fun run hrun => by simp [h run hrun]
  rw [shiftBy, hfind]

/-- Where no other run covers a code point, **the first run** alone counts. -/
theorem shiftBy_cons {run : CaseRun} {runs : List CaseRun} {n : Nat}
    (h : ∀ other ∈ runs, other.covers n = false) : shiftBy (run :: runs) n = shiftBy [run] n := by
  have hrest := shiftBy_of_covers h
  rw [shiftBy] at hrest
  rw [shiftBy, shiftBy, List.find?_cons, List.find?_cons, List.find?_nil]
  cases run.covers n with
  | true => rfl
  | false => exact hrest

/-- The character of a code point **has this code point**. -/
theorem toNat_ofNat {n : Nat} (h : n.isValidChar) : (Char.ofNat n).toNat = n := by
  rw [Char.ofNat, dif_pos h]
  rfl

/-- Lowering is **one mapping**, in ASCII and beyond. -/
theorem lowerChar_eq (c : Char) : lowerChar c = Char.ofNat (shiftBy caseRuns c.toNat) := by
  obtain ⟨-, -, hbeyond, hlower⟩ := caseRuns_checked
  by_cases hascii : c.toNat < 0x80
  · have hcovers : ∀ run ∈ lowerRuns, run.covers c.toNat = false := by
      intro run hrun
      have hfirst := Nat.ble_eq.mp (List.all_eq_true.mp hbeyond run hrun)
      rw [← Bool.not_eq_true, CaseRun.covers_iff]
      exact fun h => absurd (Nat.le_trans hfirst h.1) (Nat.not_le.mpr hascii)
    have h := hlower c.toNat hascii
    rwa [Char.ofNat_toNat, ← shiftBy_cons hcovers] at h
  · have hcovers : asciiRun.covers c.toNat = false := by
      rw [← Bool.not_eq_true, CaseRun.covers_iff]
      exact fun h => hascii (Nat.lt_of_le_of_lt h.2.1 (by decide))
    rw [lowerChar, if_neg hascii, caseRuns, shiftBy, shiftBy, List.find?_cons, hcovers]

/-- What is not left alone by lowering is **shifted by a run** to none of what lowering never leads to. -/
theorem exists_run_of_lowerChar_ne {c : Char} (h : lowerChar c ≠ c) :
    ∃ run ∈ caseRuns, run.covers c.toNat = true ∧ (lowerChar c).toNat = (c.toNat + run.shift).toNat ∧
      ∀ other ∈ neverLowered, other.covers (lowerChar c).toNat = false := by
  rw [lowerChar_eq] at h ⊢
  cases hfind : caseRuns.find? (·.covers c.toNat) with
  | none => exact absurd (by rw [shiftBy, hfind, Char.ofNat_toNat]) h
  | some run =>
      obtain ⟨hall, hon, -⟩ := caseRuns_checked
      have hmem := List.mem_of_find?_eq_some hfind
      have hcovered := List.find?_some hfind
      have hpages : ∀ other ∈ neverLowered, ∃ page ∈ casePages, other.isOn page = true := fun other hother =>
        List.any_eq_true.mp (List.all_eq_true.mp hon other hother)
      obtain ⟨hlt, hcovers⟩ := CaseRun.covers_of_settles (List.all_eq_true.mp hall run hmem) hpages hcovered
      have hvalid : (c.toNat + run.shift).toNat.isValidChar := by
        have hsurrogate := hcovers _ List.mem_cons_self
        rw [← Bool.not_eq_true, CaseRun.covers_iff] at hsurrogate
        simp only [Nat.mod_one, and_true, not_and] at hsurrogate
        unfold Nat.isValidChar
        omega
      have hshift : shiftBy caseRuns c.toNat = (c.toNat + run.shift).toNat := by rw [shiftBy, hfind]
      rw [hshift, toNat_ofNat hvalid]
      exact ⟨run, hmem, hcovered, rfl, hcovers⟩

/-- A character is **left alone** by lowering, or what it leads to is none of what lowering never leads
to. -/
theorem lowerChar_eq_or (c : Char) :
    lowerChar c = c ∨ ∀ run ∈ neverLowered, run.covers (lowerChar c).toNat = false := by
  refine Decidable.or_iff_not_imp_left.mpr fun hne => ?_
  obtain ⟨run, -, -, -, hcovers⟩ := exists_run_of_lowerChar_ne hne
  exact hcovers

/-- **Lowering twice is lowering once.** -/
theorem lowerChar_lowerChar (c : Char) : lowerChar (lowerChar c) = lowerChar c := by
  rcases lowerChar_eq_or c with h | h
  · rw [h, h]
  · rw [lowerChar_eq (lowerChar c), shiftBy_of_covers, Char.ofNat_toNat]
    intro run hrun
    exact h run (List.mem_append_right _ hrun)

/-- Lowering leads to white space **from white space only**. -/
theorem isBlank_lowerChar {c : Char} (hc : isBlank c = false) : isBlank (lowerChar c) = false := by
  rcases lowerChar_eq_or c with h | h
  · rw [h, hc]
  · rw [isBlank, ← Bool.not_eq_true, inRanges_iff]
    rintro ⟨range, hrange, hlow, hhigh⟩
    have hcovers := h ⟨range.1, range.2, 1, 0⟩ (List.mem_append_left _ (List.mem_cons_of_mem _
      (List.mem_cons_of_mem _ (List.mem_map_of_mem (f := fun r => (⟨r.1, r.2, 1, 0⟩ : CaseRun)) hrange))))
    rw [← Bool.not_eq_true, CaseRun.covers_iff] at hcovers
    exact hcovers ⟨hlow, hhigh, Nat.mod_one _⟩

/-- Lowering leads to a mark or a digit of ASCII from **no other character**. -/
theorem lowerChar_ne {a c : Char} (ha : a.toNat ≤ 96) (hc : c ≠ a) : lowerChar c ≠ a := by
  rcases lowerChar_eq_or c with h | h
  · rwa [h]
  · rintro rfl
    have hcovers := h ⟨0, 96, 1, 0⟩ (List.mem_append_left _ (List.mem_cons_of_mem _ List.mem_cons_self))
    rw [← Bool.not_eq_true, CaseRun.covers_iff] at hcovers
    exact hcovers ⟨Nat.zero_le _, ha, Nat.mod_one _⟩

/-- A mark or a digit of ASCII is **the only one of its variants**. -/
theorem eq_of_sameLetter {a c : Char} (ha : a.toNat ≤ 96) (hfold : foldCase a = a)
    (h : sameLetter a c = true) : c = a := by
  have hvariants : ∀ entry ∈ letterVariants, 96 < (Char.ofNat entry.2).toNat := by decide
  refine Decidable.byContradiction fun hc => ?_
  have hlower := lowerChar_ne ha hc
  rw [sameLetter_iff, hfold, foldCase] at h
  rcases hlookup : letterVariants.lookup (lowerChar c).toNat with _ | n
  · simp only [hlookup] at h
    exact hlower h.symm
  · simp only [hlookup] at h
    have hmem : ((lowerChar c).toNat, n) ∈ letterVariants := by
      obtain ⟨l₁, l₂, hlist, -⟩ := List.lookup_eq_some_iff.mp hlookup
      rw [hlist]
      exact List.mem_append_right _ List.mem_cons_self
    have hlt := hvariants _ hmem
    rw [← h] at hlt
    omega

/-! ### Lowered texts -/

namespace Text

/-- A character that lowering leaves alone is its own lower case **wherever it stands**. -/
theorem lowerWithin_eq_self {c : Char} (h : lowerChar c = c) (before after : Text) :
    lowerWithin before c after = [c] := by
  have hsigma : c ≠ 'Σ' := by
    rintro rfl
    exact absurd h (by decide)
  have hdotted : c ≠ 'İ' := by
    rintro rfl
    exact absurd h (by decide)
  rw [lowerWithin, if_neg hsigma, if_neg hdotted, h]

/-- A text of characters that lowering leaves alone is **its own lower case**. -/
theorem lower_eq_self {t : Text} (h : ∀ c ∈ t, lowerChar c = c) : lower t = t := by
  have hafter : ∀ before, lowerAfter before t = t := by
    induction t with
    | nil => exact fun before => rfl
    | cons c t ih =>
        obtain ⟨hc, ht⟩ := List.forall_mem_cons.mp h
        intro before
        rw [lowerAfter, lowerWithin_eq_self hc, ih ht, List.singleton_append]
  exact hafter []

/-- A character of a lowered text comes **from one of the text**, or is one of those that capitals with a
lower case of their own lead to. -/
theorem mem_lower {t : Text} {d : Char} (h : d ∈ lower t) :
    (∃ c ∈ t, d = lowerChar c) ∨ d ∈ ['σ', 'ς', 'i', '\u0307'] := by
  have hafter : ∀ before, d ∈ lowerAfter before t →
      (∃ c ∈ t, d = lowerChar c) ∨ d ∈ ['σ', 'ς', 'i', '\u0307'] := by
    clear h
    induction t with
    | nil => exact fun before h => absurd h List.not_mem_nil
    | cons c t ih =>
        intro before h
        rcases List.mem_append.mp h with h | h
        · unfold lowerWithin at h
          split at h
          · right
            split at h <;> rw [List.mem_singleton.mp h] <;> decide
          · split at h
            · right
              simp only [List.mem_cons, List.not_mem_nil, or_false] at h
              rcases h with rfl | rfl <;> decide
            · exact .inl ⟨c, List.mem_cons_self, List.mem_singleton.mp h⟩
        · rcases ih _ h with ⟨a, ha, hd⟩ | hd
          · exact .inl ⟨a, List.mem_cons_of_mem _ ha, hd⟩
          · exact .inr hd
  exact hafter [] h

/-- What lowering keeps of **each character**, wherever it stands, it keeps of a text. -/
theorem all_lower {p : Char → Bool} (h : ∀ before c after, (lowerWithin before c after).all p = p c)
    (t : Text) : (lower t).all p = t.all p := by
  have hafter : ∀ before, (lowerAfter before t).all p = t.all p := by
    induction t with
    | nil => exact fun before => rfl
    | cons c t ih =>
        intro before
        rw [lowerAfter, List.all_append, h, ih, List.all_cons]
  exact hafter []

/-- **What has been lowered** is lowered no further. -/
theorem lowerChar_of_mem_lower {t : Text} {d : Char} (h : d ∈ lower t) : lowerChar d = d := by
  rcases mem_lower h with ⟨c, -, rfl⟩ | h
  · exact lowerChar_lowerChar c
  · simp only [List.mem_cons, List.not_mem_nil, or_false] at h
    rcases h with rfl | rfl | rfl | rfl <;> decide

/-- A text **without white space** is lowered to such a text. -/
theorem isBlank_of_mem_lower {t : Text} (ht : ∀ c ∈ t, isBlank c = false) {d : Char} (h : d ∈ lower t) :
    isBlank d = false := by
  rcases mem_lower h with ⟨c, hc, rfl⟩ | h
  · exact isBlank_lowerChar (ht c hc)
  · simp only [List.mem_cons, List.not_mem_nil, or_false] at h
    rcases h with rfl | rfl | rfl | rfl <;> decide

/-- A text **without underscores** is lowered to such a text. -/
theorem ne_underscore_of_mem_lower {t : Text} (ht : '_' ∉ t) {d : Char} (h : d ∈ lower t) : d ≠ '_' := by
  rcases mem_lower h with ⟨c, hc, rfl⟩ | h
  · exact lowerChar_ne (by decide) fun heq => ht (heq ▸ hc)
  · rintro rfl
    exact absurd h (by decide)

/-- A character is lowered **letter by letter** if its lower case is a single character, and this the same
letter. -/
def LowersAlone (c : Char) : Prop := ∃ d, lower [c] = [d] ∧ sameLetter c d = true

/-- Whether a character is lowered letter by letter is told by **comparing** it with its lower case. -/
theorem lowersAlone_iff {c : Char} : LowersAlone c ↔ sameLetters [c] (lower [c]) = true := by
  constructor
  · rintro ⟨d, hd, hsame⟩
    rw [hd, sameLetters, hsame]
    rfl
  · intro h
    rcases hlower : lower [c] with _ | ⟨d, _ | ⟨e, rest⟩⟩ <;> rw [hlower] at h
    · exact absurd h Bool.false_ne_true
    · exact ⟨d, hlower, (Bool.and_eq_true_iff.mp h).1⟩
    · exact absurd (Bool.and_eq_true_iff.mp h).2 Bool.false_ne_true

instance (c : Char) : Decidable (LowersAlone c) := decidable_of_iff _ lowersAlone_iff.symm

/-- Such a character is lowered to **one and the same letter** wherever it stands. A capital sigma has two
lower cases, but both are the same letter. -/
theorem LowersAlone.lowerWithin {c : Char} (h : LowersAlone c) (before after : Text) :
    ∃ d, Text.lowerWithin before c after = [d] ∧ sameLetter d c = true := by
  by_cases hsigma : c = 'Σ'
  · subst hsigma
    rw [Text.lowerWithin, if_pos rfl]
    split
    · exact ⟨'ς', rfl, by decide⟩
    · exact ⟨'σ', rfl, by decide⟩
  · obtain ⟨d, hd, hsame⟩ := h
    rw [lower, lowerAfter, lowerAfter, List.append_nil, Text.lowerWithin, if_neg hsigma] at hd
    rw [Text.lowerWithin, if_neg hsigma]
    exact ⟨d, hd, sameLetter_symm hsame⟩

/-- Where **every letter** is lowered to the same letter, so is the text. -/
theorem sameLetters_lower {t : Text} (h : ∀ c ∈ t, LowersAlone c) :
    sameLetters (lower t) t = true := by
  have hafter : ∀ before, sameLetters (lowerAfter before t) t = true := by
    induction t with
    | nil => exact fun before => rfl
    | cons c t ih =>
        obtain ⟨hc, ht⟩ := List.forall_mem_cons.mp h
        intro before
        obtain ⟨d, hd, hsame⟩ := hc.lowerWithin before t
        rw [lowerAfter, hd, List.singleton_append, sameLetters, hsame, ih ht, Bool.and_self]
  exact hafter []

end Text

end PlainSpec
