import PlainSpec.Proofs.PatternLanguage
import PlainSpec.Proofs.PhrasePatterns

/-!
# Parts that may be left out

A parameter that has a default may be left out of a step. Its part of the pattern is optional and brings
the white space in front of it along, so that leaving it out leaves no gap. This module compares the
pattern of a placement with the patterns of **required lines**, in which some of the optional parts are
missing and all others have to be there.

The two agree as long as the first part has to be there. An optional part that comes first has no white
space to bring along, and this shows in two ways: the part after it may touch it, and if the part after it
is optional too, then leaving out the first one leaves a gap in front of the line.

## Main results

* `matches_followers_leavesOut`: parts behind another one, whichever of them are left out.
* `match?_joinParts_required`, `match?_joinParts_single`: where leaving out is all there is to optional parts.
* `match?_joinParts_beforeRequired`, `match?_joinParts_beforeOptional`: what an optional first part adds
  and what it takes away.
* `match?_placement_leavesOut`: the pattern of a placement.
-/

namespace PlainSpec

/-! ### Leaving out -/

/-- **Leaving out** some of the optional parts keeps the others in order. -/
inductive LeavesOut : List PhrasePart → List PhrasePart → Prop
  | none : LeavesOut [] []
  | keep {part : PhrasePart} {parts kept : List PhrasePart} :
      LeavesOut parts kept → LeavesOut (part :: parts) (part :: kept)
  | drop {part : PhrasePart} {parts kept : List PhrasePart} :
      part.optional = true → LeavesOut parts kept → LeavesOut (part :: parts) kept

namespace LeavesOut

variable {part : PhrasePart} {parts kept : List PhrasePart}

/-- It is possible to leave out **nothing**. -/
theorem refl (parts : List PhrasePart) : LeavesOut parts parts := by
  induction parts with
  | nil => exact .none
  | cons part parts ih => exact .keep ih

/-- A part that has to be there **is kept**. -/
theorem exists_of_required (hpart : part.optional = false) (h : LeavesOut (part :: parts) kept) :
    ∃ others, kept = part :: others ∧ LeavesOut parts others := by
  cases h with
  | keep h => exact ⟨_, rfl, h⟩
  | drop hoptional _ => exact absurd hoptional (by simp [hpart])

/-- Of parts all of which have to be there **nothing is left out**. -/
theorem eq_of_required (hparts : ∀ part ∈ parts, part.optional = false) (h : LeavesOut parts kept) :
    kept = parts := by
  induction h with
  | none => rfl
  | keep _ ih => rw [ih (List.forall_mem_cons.mp hparts).2]
  | drop hoptional _ _ =>
      exact absurd hoptional (by simp [(List.forall_mem_cons.mp hparts).1])

end LeavesOut

/-- A part that **has to be there**. -/
def PhrasePart.required (part : PhrasePart) : PhrasePart := ⟨part.pattern, false⟩

/-- Two parts **without anything between them**. -/
def PhrasePart.touching (first second : PhrasePart) : PhrasePart :=
  ⟨.seq first.pattern second.pattern, false⟩

/-- The line in which **all of the parts** have to be there. -/
def requiredLine (parts : List PhrasePart) : LinePattern := ⟨joinParts (parts.map PhrasePart.required)⟩

/-! ### Parts behind another one -/

/-- Texts of parts with **white space in front of each**. -/
inductive Trails : List PhrasePart → Text → Prop
  | none : Trails [] []
  | next {part : PhrasePart} {parts : List PhrasePart} {gap t rest : Text} :
      gap ≠ [] → (∀ c ∈ gap, isBlank c = true) → part.pattern.Matches t → Trails parts rest →
      Trails (part :: parts) (gap ++ (t ++ rest))

/-- An optional part behind another one is **there with its white space, or not at all**. -/
theorem matches_following_optional {part : PhrasePart} (hpart : part.optional = true)
    (afterOptional : Bool) {qs : List Pattern} {v : Text} :
    (Pattern.sequence (followingPatterns afterOptional part ++ qs)).Matches v ↔
      (Pattern.sequence qs).Matches v ∨ ∃ gap t rest, v = gap ++ (t ++ rest) ∧ gap ≠ [] ∧
        (∀ c ∈ gap, isBlank c = true) ∧ part.pattern.Matches t ∧ (Pattern.sequence qs).Matches rest := by
  rw [followingPatterns, if_pos hpart, List.singleton_append, Pattern.matches_sequence_cons]
  constructor
  · rintro ⟨_, rest, rfl, ⟨gap, t, rfl, hgap, ht⟩ | rfl, hrest⟩
    · obtain ⟨hne, hblank⟩ := Pattern.matches_someBlanks.mp hgap
      exact .inr ⟨gap, t, rest, List.append_assoc _ _ _, hne, hblank, ht, hrest⟩
    · exact .inl hrest
  · rintro (hrest | ⟨gap, t, rest, rfl, hne, hblank, ht, hrest⟩)
    · exact ⟨[], v, rfl, .inr rfl, hrest⟩
    · exact ⟨gap ++ t, rest, (List.append_assoc _ _ _).symm,
        .inl ⟨gap, t, rfl, Pattern.matches_someBlanks.mpr ⟨hne, hblank⟩, ht⟩, hrest⟩

/-- A part that has to be there stands behind another one **with white space in front of it**. -/
theorem matches_following_required {part : PhrasePart} (hpart : part.optional = false)
    {qs : List Pattern} {v : Text} :
    (Pattern.sequence (followingPatterns false part ++ qs)).Matches v ↔
      ∃ gap t rest, v = gap ++ (t ++ rest) ∧ gap ≠ [] ∧ (∀ c ∈ gap, isBlank c = true) ∧
        part.pattern.Matches t ∧ (Pattern.sequence qs).Matches rest := by
  have hpatterns : followingPatterns false part ++ qs = .chars .blank .some :: part.pattern :: qs := by
    rw [followingPatterns, if_neg (by simp [hpart])]
    rfl
  rw [hpatterns, Pattern.matches_sequence_cons]
  constructor
  · rintro ⟨gap, _, rfl, hgap, hrest⟩
    obtain ⟨t, rest, rfl, ht, hrest⟩ := Pattern.matches_sequence_cons.mp hrest
    obtain ⟨hne, hblank⟩ := Pattern.matches_someBlanks.mp hgap
    exact ⟨gap, t, rest, rfl, hne, hblank, ht, hrest⟩
  · rintro ⟨gap, t, rest, rfl, hne, hblank, ht, hrest⟩
    exact ⟨gap, t ++ rest, rfl, Pattern.matches_someBlanks.mpr ⟨hne, hblank⟩,
      Pattern.matches_sequence_cons.mpr ⟨t, rest, rfl, ht, hrest⟩⟩

/-- **Parts behind another one** describe the texts of those that are not left out, with white space in
front of each. -/
theorem matches_followers_leavesOut {parts : List PhrasePart} {v : Text} :
    (Pattern.sequence (followers false parts)).Matches v ↔
      ∃ kept, LeavesOut parts kept ∧ Trails kept v := by
  induction parts generalizing v with
  | nil =>
      constructor
      · rintro rfl
        exact ⟨[], .none, .none⟩
      · rintro ⟨_, hnone, htrails⟩
        cases hnone
        cases htrails
        rfl
  | cons part parts ih =>
      rw [followers]
      rcases hpart : part.optional with _ | _
      · rw [matches_following_required hpart]
        constructor
        · rintro ⟨gap, t, rest, rfl, hne, hblank, ht, hrest⟩
          obtain ⟨kept, hkept, htrails⟩ := ih.mp hrest
          exact ⟨part :: kept, .keep hkept, .next hne hblank ht htrails⟩
        · rintro ⟨_, hkept, htrails⟩
          obtain ⟨others, rfl, hothers⟩ := hkept.exists_of_required hpart
          cases htrails with
          | next hne hblank ht htrails =>
              exact ⟨_, _, _, rfl, hne, hblank, ht, ih.mpr ⟨others, hothers, htrails⟩⟩
      · rw [matches_following_optional hpart]
        constructor
        · rintro (hrest | ⟨gap, t, rest, rfl, hne, hblank, ht, hrest⟩)
          · obtain ⟨kept, hkept, htrails⟩ := ih.mp hrest
            exact ⟨kept, .drop hpart hkept, htrails⟩
          · obtain ⟨kept, hkept, htrails⟩ := ih.mp hrest
            exact ⟨part :: kept, .keep hkept, .next hne hblank ht htrails⟩
        · rintro ⟨_, hkept, htrails⟩
          cases hkept with
          | drop _ hkept => exact .inl (ih.mpr ⟨_, hkept, htrails⟩)
          | keep hkept =>
              cases htrails with
              | next hne hblank ht htrails =>
                  exact .inr ⟨_, _, _, rfl, hne, hblank, ht, ih.mpr ⟨_, hkept, htrails⟩⟩

/-- Behind an optional part, an **optional one** brings its white space along as behind any other. -/
theorem followers_of_optional {part : PhrasePart} (hpart : part.optional = true)
    (afterOptional : Bool) (parts : List PhrasePart) :
    followers afterOptional (part :: parts) = followers false (part :: parts) := by
  rw [followers, followers, followingPatterns, followingPatterns, if_pos hpart, if_pos hpart]

/-- Behind an optional part, a part that has to be there comes after **any white space**. -/
theorem matches_followers_afterOptional {part : PhrasePart} (hpart : part.optional = false)
    {parts : List PhrasePart} {v : Text} :
    (Pattern.sequence (followers true (part :: parts))).Matches v ↔
      ∃ gap t rest kept, v = gap ++ (t ++ rest) ∧ (∀ c ∈ gap, isBlank c = true) ∧
        part.pattern.Matches t ∧ LeavesOut parts kept ∧ Trails kept rest := by
  have hpatterns : followers true (part :: parts) =
      .chars .blank .many :: part.pattern :: followers false parts := by
    rw [followers, followingPatterns, if_neg (by simp [hpart])]
    rfl
  rw [hpatterns, Pattern.matches_sequence_cons]
  constructor
  · rintro ⟨gap, _, rfl, hgap, hrest⟩
    obtain ⟨t, rest, rfl, ht, hrest⟩ := Pattern.matches_sequence_cons.mp hrest
    obtain ⟨kept, hkept, htrails⟩ := matches_followers_leavesOut.mp hrest
    exact ⟨gap, t, rest, kept, rfl, Pattern.matches_blanks.mp hgap, ht, hkept, htrails⟩
  · rintro ⟨gap, t, rest, kept, rfl, hblank, ht, hkept, htrails⟩
    exact ⟨gap, t ++ rest, rfl, Pattern.matches_blanks.mpr hblank, Pattern.matches_sequence_cons.mpr
      ⟨t, rest, rfl, ht, matches_followers_leavesOut.mpr ⟨kept, hkept, htrails⟩⟩⟩

/-! ### Required lines -/

/-- Nothing changes in the texts of parts if these **have to be there**. -/
theorem trails_required {parts : List PhrasePart} {v : Text} :
    Trails (parts.map PhrasePart.required) v ↔ Trails parts v := by
  induction parts generalizing v with
  | nil => rfl
  | cons part parts ih =>
      constructor
      · intro h
        cases h with
        | next hne hblank ht hrest => exact .next hne hblank ht (ih.mp hrest)
      · intro h
        cases h with
        | next hne hblank ht hrest => exact .next hne hblank ht (ih.mpr hrest)

/-- **A required line** matches the texts of its parts, with white space between neighbours and perhaps
around them all. -/
theorem match?_requiredLine_cons {first : PhrasePart} {rest : List PhrasePart} {body : Text} :
    ((requiredLine (first :: rest)).match? body).isSome = true ↔
      ∃ lead t v trail, body = lead ++ (t ++ v) ++ trail ∧ (∀ c ∈ lead, isBlank c = true) ∧
        first.pattern.Matches t ∧ Trails rest v ∧ ∀ c ∈ trail, isBlank c = true := by
  have hrest : ∀ {v}, (Pattern.sequence (followers false (rest.map PhrasePart.required))).Matches v ↔
      Trails rest v := by
    intro v
    rw [matches_followers_leavesOut, ← trails_required]
    constructor
    · rintro ⟨kept, hkept, htrails⟩
      rwa [hkept.eq_of_required (by simp [PhrasePart.required])] at htrails
    · exact fun htrails => ⟨_, .refl _, htrails⟩
  have hpattern : (requiredLine (first :: rest)).inner =
      .sequence (first.pattern :: followers false (rest.map PhrasePart.required)) := by
    rw [requiredLine, List.map_cons, joinParts_cons]
    rfl
  rw [LinePattern.match?_isSome_iff, hpattern]
  simp only [Pattern.matches_sequence_cons, hrest]
  constructor
  · rintro ⟨lead, _, trail, rfl, hlead, ⟨t, v, rfl, ht, hv⟩, htrail⟩
    exact ⟨lead, t, v, trail, rfl, hlead, ht, hv, htrail⟩
  · rintro ⟨lead, t, v, trail, rfl, hlead, ht, hv, htrail⟩
    exact ⟨lead, t ++ v, trail, rfl, hlead, ⟨t, v, rfl, ht, hv⟩, htrail⟩

/-- The required line **of no parts** matches white space. -/
theorem match?_requiredLine_nil {body : Text} :
    ((requiredLine []).match? body).isSome = true ↔ ∀ c ∈ body, isBlank c = true := by
  have hpattern : (requiredLine []).inner = .nothing := rfl
  rw [LinePattern.match?_isSome_iff, hpattern]
  constructor
  · rintro ⟨lead, _, trail, rfl, hlead, rfl, htrail⟩ c hc
    rw [List.append_nil] at hc
    exact (List.mem_append.mp hc).elim (hlead c) (htrail c)
  · exact fun hbody => ⟨body, [], [], by simp, hbody, rfl, by simp⟩

/-- White space **in front of a body** does not matter. -/
theorem match?_requiredLine_blank {parts : List PhrasePart} {c : Char} (hc : isBlank c = true)
    {body : Text} (h : ((requiredLine parts).match? body).isSome = true) :
    ((requiredLine parts).match? (c :: body)).isSome = true := by
  obtain ⟨lead, line, trail, rfl, hlead, hline, htrail⟩ := LinePattern.match?_isSome_iff.mp h
  exact LinePattern.match?_isSome_iff.mpr
    ⟨c :: lead, line, trail, rfl, List.forall_mem_cons.mpr ⟨hc, hlead⟩, hline, htrail⟩

/-! ### Joined parts -/

section

variable {first second : PhrasePart} {rest others : List PhrasePart} {body : Text}

/-- The pattern joined from parts matches the **text of its first part**, or none if this is optional,
before whatever its other parts describe. -/
theorem match?_joinParts_cons :
    ((LinePattern.mk (joinParts (first :: rest))).match? body).isSome = true ↔
      ∃ lead t v trail, body = lead ++ (t ++ v) ++ trail ∧ (∀ c ∈ lead, isBlank c = true) ∧
        (first.pattern.Matches t ∨ first.optional = true ∧ t = []) ∧
        (Pattern.sequence (followers first.optional rest)).Matches v ∧
        ∀ c ∈ trail, isBlank c = true := by
  have hleading : ∀ t, first.leading.Matches t ↔
      first.pattern.Matches t ∨ first.optional = true ∧ t = [] := by
    intro t
    rcases hfirst : first.optional with _ | _ <;> simp [PhrasePart.leading, hfirst, Pattern.Matches]
  rw [LinePattern.match?_isSome_iff, joinParts_cons]
  simp only [Pattern.matches_sequence_cons, hleading]
  constructor
  · rintro ⟨lead, _, trail, rfl, hlead, ⟨t, v, rfl, ht, hv⟩, htrail⟩
    exact ⟨lead, t, v, trail, rfl, hlead, ht, hv, htrail⟩
  · rintro ⟨lead, t, v, trail, rfl, hlead, ht, hv, htrail⟩
    exact ⟨lead, t ++ v, trail, rfl, hlead, ⟨t, v, rfl, ht, hv⟩, htrail⟩

/-- **Behind a first part that has to be there**, optional parts may be left out and nothing else. -/
theorem match?_joinParts_required (hfirst : first.optional = false) :
    ((LinePattern.mk (joinParts (first :: rest))).match? body).isSome = true ↔
      ∃ kept, LeavesOut (first :: rest) kept ∧ ((requiredLine kept).match? body).isSome = true := by
  rw [match?_joinParts_cons, hfirst]
  constructor
  · rintro ⟨lead, t, v, trail, rfl, hlead, ht | ⟨hoptional, -⟩, hv, htrail⟩
    · obtain ⟨kept, hkept, htrails⟩ := matches_followers_leavesOut.mp hv
      exact ⟨first :: kept, .keep hkept,
        match?_requiredLine_cons.mpr ⟨lead, t, v, trail, rfl, hlead, ht, htrails, htrail⟩⟩
    · exact absurd hoptional (by simp)
  · rintro ⟨_, hkept, hmatch⟩
    obtain ⟨others, rfl, hothers⟩ := hkept.exists_of_required hfirst
    obtain ⟨lead, t, v, trail, rfl, hlead, ht, htrails, htrail⟩ := match?_requiredLine_cons.mp hmatch
    exact ⟨lead, t, v, trail, rfl, hlead, .inl ht,
      matches_followers_leavesOut.mpr ⟨others, hothers, htrails⟩, htrail⟩

/-- An optional part that stands **alone** may be left out. -/
theorem match?_joinParts_single (hfirst : first.optional = true) :
    ((LinePattern.mk (joinParts [first])).match? body).isSome = true ↔
      ∃ kept, LeavesOut [first] kept ∧ ((requiredLine kept).match? body).isSome = true := by
  rw [match?_joinParts_cons]
  constructor
  · rintro ⟨lead, t, v, trail, rfl, hlead, ht | ⟨-, rfl⟩, rfl, htrail⟩
    · exact ⟨[first], .refl _,
        match?_requiredLine_cons.mpr ⟨lead, t, [], trail, rfl, hlead, ht, .none, htrail⟩⟩
    · refine ⟨[], .drop hfirst .none, match?_requiredLine_nil.mpr ?_⟩
      simpa using List.forall_mem_append.mpr ⟨hlead, htrail⟩
  · rintro ⟨kept, hkept, hmatch⟩
    cases hkept with
    | keep hkept =>
        cases hkept
        obtain ⟨lead, t, _, trail, rfl, hlead, ht, htrails, htrail⟩ := match?_requiredLine_cons.mp hmatch
        cases htrails
        exact ⟨lead, t, [], trail, rfl, hlead, .inl ht, rfl, htrail⟩
    | drop _ hkept =>
        cases hkept
        exact ⟨body, [], [], [], by simp, match?_requiredLine_nil.mp hmatch, .inr ⟨hfirst, rfl⟩, rfl,
          by simp⟩

/-- **An optional first part before one that has to be there** may be left out, and it may also touch the
part after it. -/
theorem match?_joinParts_beforeRequired (hfirst : first.optional = true)
    (hsecond : second.optional = false) :
    ((LinePattern.mk (joinParts (first :: second :: others))).match? body).isSome = true ↔
      (∃ kept, LeavesOut (first :: second :: others) kept ∧
        ((requiredLine kept).match? body).isSome = true) ∨
      ∃ kept, LeavesOut others kept ∧
        ((requiredLine (first.touching second :: kept)).match? body).isSome = true := by
  rw [match?_joinParts_cons, hfirst]
  simp only [matches_followers_afterOptional hsecond]
  constructor
  · rintro ⟨lead, t, _, trail, rfl, hlead, ht, ⟨gap, u, v, kept, rfl, hblank, hu, hkept, htrails⟩, htrail⟩
    rcases ht with ht | ⟨-, rfl⟩
    · by_cases hgap : gap = []
      · subst hgap
        refine .inr ⟨kept, hkept, match?_requiredLine_cons.mpr
          ⟨lead, t ++ u, v, trail, by simp, hlead, ⟨t, u, rfl, ht, hu⟩, htrails, htrail⟩⟩
      · exact .inl ⟨first :: second :: kept, .keep (.keep hkept), match?_requiredLine_cons.mpr
          ⟨lead, t, _, trail, rfl, hlead, ht, .next hgap hblank hu htrails, htrail⟩⟩
    · exact .inl ⟨second :: kept, .drop hfirst (.keep hkept), match?_requiredLine_cons.mpr
        ⟨lead ++ gap, u, v, trail, by simp, List.forall_mem_append.mpr ⟨hlead, hblank⟩, hu, htrails,
          htrail⟩⟩
  · rintro (⟨_, hkept, hmatch⟩ | ⟨kept, hkept, hmatch⟩)
    · cases hkept with
      | keep hkept =>
          obtain ⟨behind, rfl, hbehind⟩ := hkept.exists_of_required hsecond
          obtain ⟨lead, t, _, trail, rfl, hlead, ht, htrails, htrail⟩ :=
            match?_requiredLine_cons.mp hmatch
          cases htrails with
          | next _ hblank hu htrails =>
              exact ⟨lead, t, _, trail, rfl, hlead, .inl ht,
                ⟨_, _, _, behind, rfl, hblank, hu, hbehind, htrails⟩, htrail⟩
      | drop _ hkept =>
          obtain ⟨behind, rfl, hbehind⟩ := hkept.exists_of_required hsecond
          obtain ⟨lead, u, v, trail, rfl, hlead, hu, htrails, htrail⟩ :=
            match?_requiredLine_cons.mp hmatch
          exact ⟨lead, [], u ++ v, trail, rfl, hlead, .inr ⟨trivial, rfl⟩,
            ⟨[], u, v, behind, rfl, by simp, hu, hbehind, htrails⟩, htrail⟩
    · obtain ⟨lead, _, v, trail, rfl, hlead, ⟨t, u, rfl, ht, hu⟩, htrails, htrail⟩ :=
        match?_requiredLine_cons.mp hmatch
      exact ⟨lead, t, u ++ v, trail, by simp, hlead, .inl ht,
        ⟨[], u, v, kept, rfl, by simp, hu, hkept, htrails⟩, htrail⟩

/-- **An optional first part before another optional one** may be left out only behind white space, unless
all others are left out as well. -/
theorem match?_joinParts_beforeOptional (hfirst : first.optional = true)
    (hsecond : second.optional = true) :
    ((LinePattern.mk (joinParts (first :: second :: others))).match? body).isSome = true ↔
      ∃ kept, LeavesOut (second :: others) kept ∧
        (((requiredLine (first :: kept)).match? body).isSome = true ∨
          (kept = [] ∧ ((requiredLine kept).match? body).isSome = true) ∨
          ∃ c rest, body = c :: rest ∧ isBlank c = true ∧
            ((requiredLine kept).match? rest).isSome = true) := by
  rw [match?_joinParts_cons, followers_of_optional hsecond]
  simp only [matches_followers_leavesOut]
  constructor
  · rintro ⟨lead, t, v, trail, rfl, hlead, ht, ⟨kept, hkept, htrails⟩, htrail⟩
    refine ⟨kept, hkept, ?_⟩
    rcases ht with ht | ⟨-, rfl⟩
    · exact .inl (match?_requiredLine_cons.mpr ⟨lead, t, v, trail, rfl, hlead, ht, htrails, htrail⟩)
    · cases htrails with
      | none =>
          refine .inr (.inl ⟨rfl, match?_requiredLine_nil.mpr ?_⟩)
          simpa using List.forall_mem_append.mpr ⟨hlead, htrail⟩
      | @next part parts gap u w hne hblank hu htrails =>
          -- the first blank is the one in front of the line or else of the gap
          obtain ⟨c, blanks, hcons⟩ := List.exists_cons_of_ne_nil (show lead ++ gap ≠ [] by simp [hne])
          have hblanks : ∀ d ∈ c :: blanks, isBlank d = true := by
            rw [← hcons]
            exact List.forall_mem_append.mpr ⟨hlead, hblank⟩
          obtain ⟨hc, hblanks⟩ := List.forall_mem_cons.mp hblanks
          refine .inr (.inr ⟨c, blanks ++ (u ++ w) ++ trail, ?_, hc, match?_requiredLine_cons.mpr
            ⟨blanks, u, w, trail, rfl, hblanks, hu, htrails, htrail⟩⟩)
          calc lead ++ ([] ++ (gap ++ (u ++ w))) ++ trail
              = (lead ++ gap) ++ ((u ++ w) ++ trail) := by simp
            _ = c :: (blanks ++ (u ++ w) ++ trail) := by rw [hcons]; simp
  · rintro ⟨kept, hkept, hmatch | ⟨rfl, hmatch⟩ | ⟨c, rest, rfl, hc, hmatch⟩⟩
    · obtain ⟨lead, t, v, trail, rfl, hlead, ht, htrails, htrail⟩ := match?_requiredLine_cons.mp hmatch
      exact ⟨lead, t, v, trail, rfl, hlead, .inl ht, ⟨kept, hkept, htrails⟩, htrail⟩
    · exact ⟨body, [], [], [], by simp, match?_requiredLine_nil.mp hmatch, .inr ⟨hfirst, rfl⟩,
        ⟨[], hkept, .none⟩, by simp⟩
    · cases kept with
      | nil =>
          have hbody := match?_requiredLine_nil.mp (match?_requiredLine_blank hc hmatch)
          exact ⟨c :: rest, [], [], [], by simp, hbody, .inr ⟨hfirst, rfl⟩, ⟨[], hkept, .none⟩, by simp⟩
      | cons part kept =>
          obtain ⟨lead, u, v, trail, rfl, hlead, hu, htrails, htrail⟩ :=
            match?_requiredLine_cons.mp hmatch
          exact ⟨[], [], (c :: lead) ++ (u ++ v), trail, by simp, by simp, .inr ⟨hfirst, rfl⟩,
            ⟨part :: kept, hkept,
              .next (by simp) (List.forall_mem_cons.mpr ⟨hc, hlead⟩) hu htrails⟩, htrail⟩

end

/-! ### Placements -/

/-- **How parts are read** when some of them may be left out. -/
structure ReadsLeavingOut (parts : List PhrasePart) : Prop where
  /-- Unless an optional part comes first and is not the only one, a body is matched exactly if it is
  matched by the required line of the parts that **some leaving out** keeps. -/
  whole : (∀ first ∈ parts.head?, first.optional = true → parts = [first]) → ∀ body,
    ((LinePattern.mk (joinParts parts)).match? body).isSome = true ↔
      ∃ kept, LeavesOut parts kept ∧ ((requiredLine kept).match? body).isSome = true
  /-- An optional first part before one that has to be there may also **touch** it. -/
  beforeRequired : ∀ first second others, parts = first :: second :: others →
    first.optional = true → second.optional = false → ∀ body,
      ((LinePattern.mk (joinParts parts)).match? body).isSome = true ↔
        (∃ kept, LeavesOut parts kept ∧ ((requiredLine kept).match? body).isSome = true) ∨
        ∃ kept, LeavesOut others kept ∧
          ((requiredLine (first.touching second :: kept)).match? body).isSome = true
  /-- An optional first part before another optional one may be left out only with all others or **behind
  white space**. -/
  beforeOptional : ∀ first second others, parts = first :: second :: others →
    first.optional = true → second.optional = true → ∀ body,
      ((LinePattern.mk (joinParts parts)).match? body).isSome = true ↔
        ∃ kept, LeavesOut (second :: others) kept ∧
          (((requiredLine (first :: kept)).match? body).isSome = true ∨
            (kept = [] ∧ ((requiredLine kept).match? body).isSome = true) ∨
            ∃ c rest, body = c :: rest ∧ isBlank c = true ∧
              ((requiredLine kept).match? rest).isSome = true)

/-- **All parts** are read like this, by what the first one is and what comes after it. -/
theorem readsLeavingOut (parts : List PhrasePart) : ReadsLeavingOut parts where
  whole := by
    intro hfirst body
    cases parts with
    | nil =>
        constructor
        · exact fun hmatch => ⟨[], .none, hmatch⟩
        · rintro ⟨_, hnone, hmatch⟩
          cases hnone
          exact hmatch
    | cons first rest =>
        rcases hoptional : first.optional with _ | _
        · exact match?_joinParts_required hoptional
        · obtain ⟨-, rfl⟩ := List.cons.inj (hfirst first rfl hoptional)
          exact match?_joinParts_single hoptional
  beforeRequired := by
    rintro first second others rfl hfirst hsecond body
    exact match?_joinParts_beforeRequired hfirst hsecond
  beforeOptional := by
    rintro first second others rfl hfirst hsecond body
    exact match?_joinParts_beforeOptional hfirst hsecond

/-- **What a default allows.** For parameters of the customary types, whatever their names are and whichever
of them have defaults, every placement in a phrase has its parts. Those of the parameters that have
defaults are optional and no others, and the pattern joined from them is read leaving out optional parts. -/
theorem match?_placement_leavesOut {phrase : Text} {parameters : List Parameter}
    (hserved : ∀ p ∈ parameters, Catalog.standard.handles p.type = true) {placement : Placement}
    (hplacement : placement ∈ placements ((Text.words phrase).map Text.lower) parameters) :
    ∃ parts, placementParts (parameterPart Catalog.standard (captureNames parameters))
        (Text.words phrase) placement = .ok parts ∧
      parts = (segmentsOf (Text.words phrase) placement).map
        (Segment.partBy (valuePart (captureNames parameters))) ∧
      (∀ p ∈ parameters, (valuePart (captureNames parameters) p).optional = p.hasDefault) ∧
      ReadsLeavingOut parts := by
  have hp := mem_placements_iff.mp hplacement
  have hparts := placementParts_eq (fun entry hentry => (parameterPart_eq_valuePart
    (hserved entry.1 (hp.mem_parameters hentry)) (captureNames parameters)).1) (Text.words phrase)
  exact ⟨_, hparts, rfl, fun p hp => (parameterPart_eq_valuePart (hserved p hp) _).2, readsLeavingOut _⟩

/-- A **number and a size**, both with defaults. -/
def appleParameters : List Parameter := [⟨"count", some .int, true⟩, ⟨"size", some .int, true⟩]

/-- Their **placement** in front of a word. -/
def applePlacement : Placement :=
  appleParameters.zip [some ⟨0, 1⟩, some ⟨1, 2⟩]

/-- Two parameters with defaults in front of a word have parts, and these are read leaving out some. -/
theorem match?_placement_leavesOut_apples :
    (∀ p ∈ appleParameters, Catalog.standard.handles p.type = true) ∧
      applePlacement ∈ placements ((Text.words "count size apples").map Text.lower) appleParameters ∧
      ∃ parts, placementParts (parameterPart Catalog.standard (captureNames appleParameters))
          (Text.words "count size apples") applePlacement = .ok parts ∧
        parts = (segmentsOf (Text.words "count size apples") applePlacement).map
          (Segment.partBy (valuePart (captureNames appleParameters))) ∧
        (∀ p ∈ appleParameters, (valuePart (captureNames appleParameters) p).optional = p.hasDefault) ∧
        ReadsLeavingOut parts := by
  have hserved : ∀ p ∈ appleParameters, Catalog.standard.handles p.type = true := by decide
  have hplacement : applePlacement ∈
      placements ((Text.words "count size apples").map Text.lower) appleParameters :=
    List.mem_of_getElem? (show (placements _ _)[0]? = some applePlacement from rfl)
  exact ⟨hserved, hplacement, match?_placement_leavesOut hserved hplacement⟩

/-- The **parts** of this placement. -/
def appleParts : List PhrasePart :=
  [⟨.seq (.capture "count" InlineKind.integerPattern) (.optional (.oneOf (ordinalEndings.map .literal))),
      true⟩,
    ⟨.seq (.capture "size" InlineKind.integerPattern) (.optional (.oneOf (ordinalEndings.map .literal))),
      true⟩,
    ⟨.literal "apples", false⟩]

/-- **Not both** of two defaults at the front of a phrase may be left out, and a single one there need not be
apart from the next word. -/
theorem leavesOut_apples_fails :
    (placementParts (parameterPart Catalog.standard (captureNames appleParameters))
        (Text.words "count size apples") applePlacement = .ok appleParts ∧
      LeavesOut appleParts [⟨.literal "apples", false⟩] ∧
      ((requiredLine [⟨.literal "apples", false⟩]).match? "apples").isSome = true ∧
      (LinePattern.mk (joinParts appleParts)).match? "apples" = none) ∧
    (((LinePattern.mk (joinParts (appleParts.eraseIdx 1))).match? "5apples").isSome = true ∧
      ∀ kept, LeavesOut (appleParts.eraseIdx 1) kept → (requiredLine kept).match? "5apples" = none) := by
  refine ⟨⟨by rfl, .drop rfl (.drop rfl (.refl _)), by decide, by decide⟩, by decide, ?_⟩
  intro kept hkept
  cases hkept with
  | keep hkept =>
      obtain ⟨others, rfl, hothers⟩ := hkept.exists_of_required rfl
      cases hothers
      decide
  | drop _ hkept =>
      obtain ⟨others, rfl, hothers⟩ := hkept.exists_of_required rfl
      cases hothers
      decide

end PlainSpec
