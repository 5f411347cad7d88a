import Mathlib.Data.List.Basic
import PlainSpec.Pattern.Match
import PlainSpec.Proofs.LetterCase

/-!
# The language of a pattern

Matching is a search that lists the ways in which a pattern matches the beginning of a text. This module
describes the outcome without the search: `Pattern.Matches` says of a whole text that a pattern describes
it, by recursion on the pattern. Since nothing in a pattern looks at what comes before or after, a way
that leaves a given rest exists exactly if the pattern describes what stands in front of this rest.

## Main results

* `mem_ways_rest_iff`: the rests that the ways of a pattern leave.
* `fullMatch?_isSome_iff`: a pattern matches a whole text exactly if it describes it.
* `LinePattern.match?_isSome_iff`: a line pattern matches exactly the texts that its inner pattern
  describes, with any white space around.
-/

namespace PlainSpec

/-! ### Repeated characters -/

/-- The **numbers of characters** that a quantity admits. -/
def Quantity.Admits : Quantity → Nat → Prop
  | one, n => n = 1
  | maybe, n => n ≤ 1
  | many, _ => True
  | some, n => 1 ≤ n
  | exactly m, n => n = m

namespace CharKind

variable {kind : CharKind} {t rest : Text}

/-- The `n`-th reach drops `n` characters, **all of the kind**. -/
theorem reach_getElem?_iff {n : Nat} :
    (kind.reach t)[n]? = some rest ↔
      ∃ u, t = u ++ rest ∧ u.length = n ∧ ∀ c ∈ u, kind.holds c = true := by
  induction n generalizing t with
  | zero =>
      have h : (kind.reach t)[0]? = some t := by cases t <;> rfl
      rw [h, Option.some.injEq]
      constructor
      · rintro rfl
        exact ⟨[], rfl, rfl, by simp⟩
      · rintro ⟨u, rfl, hu, -⟩
        rw [List.length_eq_zero_iff.mp hu, List.nil_append]
  | succ n ih =>
      cases t with
      | nil =>
          constructor
          · intro h
            exact absurd h (by simp [reach])
          · rintro ⟨u, hu, hlen, -⟩
            rw [List.append_eq_nil_iff.mp hu.symm |>.1] at hlen
            exact absurd hlen (by simp)
      | cons c t =>
          rw [reach, List.getElem?_cons_succ]
          constructor
          · intro h
            split at h
            · next hc =>
              obtain ⟨u, rfl, hlen, hu⟩ := ih.mp h
              exact ⟨c :: u, rfl, by rw [List.length_cons, hlen], List.forall_mem_cons.mpr ⟨hc, hu⟩⟩
            · exact absurd h (by simp)
          · rintro ⟨u, hu, hlen, hall⟩
            obtain _ | ⟨d, u⟩ := u
            · exact absurd hlen (by simp)
            obtain ⟨rfl, rfl⟩ := List.cons.inj hu
            obtain ⟨hd, hall⟩ := List.forall_mem_cons.mp hall
            rw [if_pos hd]
            exact ih.mpr ⟨u, rfl, Nat.succ.inj hlen, hall⟩

/-- What a quantity leaves over is one of the reaches that it **admits**. -/
theorem mem_rests_iff_getElem? {quantity : Quantity} :
    rest ∈ kind.rests t quantity ↔ ∃ n, quantity.Admits n ∧ (kind.reach t)[n]? = some rest := by
  cases quantity with
  | one | exactly m => simp [rests, Quantity.Admits, List.take_one]
  | maybe =>
      rw [rests, List.mem_reverse, List.mem_iff_getElem?]
      constructor
      · rintro ⟨i, hi⟩
        rw [List.getElem?_take] at hi
        split at hi
        · next h => exact ⟨i, Nat.le_of_lt_succ h, hi⟩
        · exact absurd hi (by simp)
      · rintro ⟨n, hn, h⟩
        refine ⟨n, ?_⟩
        rw [List.getElem?_take, if_pos (Nat.lt_succ_of_le hn), h]
  | many =>
      rw [rests, List.mem_reverse, List.mem_iff_getElem?]
      simp [Quantity.Admits]
  | some =>
      rw [rests, List.mem_reverse, List.mem_iff_getElem?]
      constructor
      · rintro ⟨i, hi⟩
        rw [List.getElem?_drop] at hi
        exact ⟨1 + i, Nat.le_add_right 1 i, hi⟩
      · rintro ⟨n, hn, h⟩
        obtain ⟨i, rfl⟩ := Nat.exists_eq_add_of_le hn
        exact ⟨i, by rw [List.getElem?_drop, h]⟩

/-- What a quantity leaves over stands behind so many characters **of the kind**. -/
theorem mem_rests_iff {quantity : Quantity} :
    rest ∈ kind.rests t quantity ↔
      ∃ u, t = u ++ rest ∧ quantity.Admits u.length ∧ ∀ c ∈ u, kind.holds c = true := by
  rw [mem_rests_iff_getElem?]
  constructor
  · rintro ⟨n, hn, h⟩
    obtain ⟨u, hu, rfl, hall⟩ := reach_getElem?_iff.mp h
    exact ⟨u, hu, hn, hall⟩
  · rintro ⟨u, hu, hn, hall⟩
    exact ⟨u.length, hn, reach_getElem?_iff.mpr ⟨u, hu, rfl, hall⟩⟩

end CharKind

/-! ### Patterns -/

namespace Pattern

/-- A pattern **describes** a whole text. -/
def Matches : Pattern → Text → Prop
  | nothing, t => t = []
  | literal word, t | verbatim word, t => Text.sameLetters word t = true
  | chars kind quantity, t => quantity.Admits t.length ∧ ∀ c ∈ t, kind.holds c = true
  | seq first second, t => ∃ u v, t = u ++ v ∧ first.Matches u ∧ second.Matches v
  | either first second, t => first.Matches t ∨ second.Matches t
  | group inner, t => inner.Matches t
  | optional inner, t => inner.Matches t ∨ t = []
  | capture _ inner, t => inner.Matches t

/-- **The rests that matching leaves.** A pattern can leave a rest of a text exactly if it describes what
stands in front of it. The induction is on the pattern, for all texts at once, since the second part of a
sequence starts where the first one ends. -/
theorem mem_ways_rest_iff {p : Pattern} {t rest : Text} :
    (∃ way ∈ p.ways t, way.rest = rest) ↔ ∃ u, t = u ++ rest ∧ p.Matches u := by
  induction p generalizing t rest with
  | nothing =>
      simp only [ways, List.mem_singleton, exists_eq_left, Matches]
      constructor
      · rintro rfl
        exact ⟨[], rfl, rfl⟩
      · rintro ⟨u, rfl, rfl⟩
        rfl
  | literal word | verbatim word =>
      simp only [ways, List.mem_map, Option.mem_toList, exists_exists_and_eq_and, Matches]
      constructor
      · rintro ⟨r, hr, rfl⟩
        exact Text.afterPrefixFold?_eq_some_iff.mp hr
      · intro h
        exact ⟨rest, Text.afterPrefixFold?_eq_some_iff.mpr h, rfl⟩
  | chars kind quantity =>
      simp only [ways, List.mem_map, exists_exists_and_eq_and, exists_eq_right, Matches]
      exact CharKind.mem_rests_iff
  | seq first second ihf ihs =>
      simp only [ways, List.mem_flatMap, List.mem_map, Matches]
      constructor
      · rintro ⟨_, ⟨way, hway, next, hnext, rfl⟩, rfl⟩
        obtain ⟨u, hu, hfirst⟩ := ihf.mp ⟨way, hway, rfl⟩
        obtain ⟨v, hv, hsecond⟩ := ihs.mp ⟨next, hnext, rfl⟩
        exact ⟨u ++ v, by rw [List.append_assoc, ← hv, ← hu], u, v, rfl, hfirst, hsecond⟩
      · rintro ⟨_, rfl, u, v, rfl, hfirst, hsecond⟩
        obtain ⟨way, hway, hrest⟩ := ihf.mpr ⟨u, List.append_assoc u v rest, hfirst⟩
        obtain ⟨next, hnext, rfl⟩ := ihs.mpr ⟨v, hrest, hsecond⟩
        exact ⟨_, ⟨way, hway, next, hnext, rfl⟩, rfl⟩
  | either first second ihf ihs =>
      simp only [ways, List.mem_append, or_and_right, exists_or, ihf, ihs, Matches, and_or_left]
  | group inner ih => exact ih
  | optional inner ih =>
      simp only [ways, List.mem_append, List.mem_singleton, or_and_right, exists_or, ih, Matches,
        and_or_left, exists_eq_left]
      refine or_congr_right ⟨?_, ?_⟩
      · rintro rfl
        exact ⟨[], rfl, rfl⟩
      · rintro ⟨u, rfl, rfl⟩
        rfl
  | capture name inner ih =>
      simp only [ways, List.mem_map, exists_exists_and_eq_and, Matches]
      exact ih

/-- A pattern matches a whole text exactly if it **describes** it. -/
theorem fullMatch?_isSome_iff {p : Pattern} {t : Text} :
    (p.fullMatch? t).isSome = true ↔ p.Matches t := by
  have h : (p.fullMatch? t).isSome = true ↔ ∃ way ∈ p.ways t, way.rest = [] := by
    simp [fullMatch?, List.find?_isSome]
  rw [h, mem_ways_rest_iff]
  simp

/-! ### Sequences and alternatives -/

/-- A sequence describes a text that its first pattern and the others describe **one after the other**. -/
theorem matches_sequence_cons {p : Pattern} {ps : List Pattern} {t : Text} :
    (sequence (p :: ps)).Matches t ↔ ∃ u v, t = u ++ v ∧ p.Matches u ∧ (sequence ps).Matches v := by
  cases ps with
  | nil => simp [sequence, Matches]
  | cons q qs => rfl

/-- **One of several patterns** describes what one of them describes. -/
theorem matches_oneOf_iff {ps : List Pattern} {t : Text} (hne : ps ≠ []) :
    (oneOf ps).Matches t ↔ ∃ p ∈ ps, p.Matches t := by
  induction ps with
  | nil => exact absurd rfl hne
  | cons p ps ih =>
      cases ps with
      | nil => simp [oneOf]
      | cons q qs =>
          rw [List.exists_mem_cons_iff, ← ih (List.cons_ne_nil q qs)]
          rfl

/-- White space of any length is described by **repeated blanks**. -/
theorem matches_blanks {t : Text} :
    (chars .blank .many).Matches t ↔ ∀ c ∈ t, isBlank c = true := by
  simp [Matches, Quantity.Admits, CharKind.holds]

/-- White space of some length is described by **repeated blanks, at least one**. -/
theorem matches_someBlanks {t : Text} :
    (chars .blank .some).Matches t ↔ t ≠ [] ∧ ∀ c ∈ t, isBlank c = true := by
  simp [Matches, Quantity.Admits, CharKind.holds, List.length_pos_iff, Nat.succ_le_iff]

end Pattern

/-! ### Lines -/

/-- Nothing but white space is left **at the end**. -/
theorem isBlank_of_atEnd {rest : Text} (h : atEnd rest = true) : ∀ c ∈ rest, isBlank c = true := by
  unfold atEnd at h
  rw [Bool.or_eq_true, List.isEmpty_iff, beq_iff_eq] at h
  rcases h with rfl | rfl
  · simp
  · intro c hc
    rw [List.mem_singleton.mp hc]
    rfl

/-- **A line pattern** matches exactly the texts that its inner pattern describes, with any white space
around. A line feed that is left at the end counts as white space. -/
theorem LinePattern.match?_isSome_iff {p : LinePattern} {t : Text} :
    (p.match? t).isSome = true ↔
      ∃ lead line trail, t = lead ++ line ++ trail ∧ (∀ c ∈ lead, isBlank c = true) ∧
        p.inner.Matches line ∧ ∀ c ∈ trail, isBlank c = true := by
  have hways : (p.match? t).isSome = true ↔
      ∃ rest, atEnd rest = true ∧ ∃ way ∈ (Pattern.sequence
        [.chars .blank .many, p.inner, .chars .blank .many]).ways t, way.rest = rest := by
    rw [LinePattern.match?, List.isSome_head?]
    constructor
    · intro hne
      obtain ⟨way, hway⟩ := List.exists_mem_of_ne_nil _ hne
      obtain ⟨hway, hend⟩ := List.mem_filter.mp hway
      exact ⟨way.rest, hend, way, hway, rfl⟩
    · rintro ⟨_, hend, way, hway, rfl⟩
      exact List.ne_nil_of_mem (List.mem_filter.mpr ⟨hway, hend⟩)
  rw [hways]
  constructor
  · rintro ⟨rest, hend, hrest⟩
    obtain ⟨u, rfl, hu⟩ := Pattern.mem_ways_rest_iff.mp hrest
    obtain ⟨lead, v, rfl, hlead, hv⟩ := Pattern.matches_sequence_cons.mp hu
    obtain ⟨line, trail, rfl, hline, htrail⟩ := Pattern.matches_sequence_cons.mp hv
    refine ⟨lead, line, trail ++ rest, by simp, Pattern.matches_blanks.mp hlead, hline, ?_⟩
    intro c hc
    rcases List.mem_append.mp hc with hc | hc
    · exact Pattern.matches_blanks.mp htrail c hc
    · exact isBlank_of_atEnd hend c hc
  · rintro ⟨lead, line, trail, rfl, hlead, hline, htrail⟩
    refine ⟨[], rfl, Pattern.mem_ways_rest_iff.mpr ⟨_, (List.append_nil _).symm, ?_⟩⟩
    rw [List.append_assoc]
    exact ⟨lead, line ++ trail, rfl, Pattern.matches_blanks.mpr hlead, line, trail, rfl, hline,
      Pattern.matches_blanks.mpr htrail⟩

end PlainSpec
