import PlainSpec.Proofs.PatternLanguage
import PlainSpec.Proofs.PhrasePatterns

/-!
# What the patterns of a phrase match

The patterns of a phrase are searched for, written out and matched as any other patterns are. This module
says what comes of it without patterns. A text reads as a phrase if the parameters that the phrase spells
can be placed in it so that the text consists of the words that stay and of values of the parameters,
followed by values of the other parameters, with white space between neighbours and around the whole.

## Main results

* `matches_joinParts_iff`: joined parts describe the texts of the parts with white space between them.
* `exists_match?_iff_phraseReading`: some pattern of a phrase matches a text exactly if the text reads as
  the phrase.
-/

namespace PlainSpec

/-! ### Reading a phrase -/

/-- **Texts with white space between neighbours**, written one after the other. -/
inductive Spaced : List Text → Text → Prop
  | none : Spaced [] []
  | last (t : Text) : Spaced [t] t
  | next {t u gap line : Text} {texts : List Text} :
      gap ≠ [] → (∀ c ∈ gap, isBlank c = true) → Spaced (u :: texts) line →
      Spaced (t :: u :: texts) (t ++ gap ++ line)

/-- **Joined texts** have white space between neighbours. -/
theorem spaced_join (texts : List Text) : Spaced texts (Text.join " " texts) := by
  induction texts with
  | nil => exact .none
  | cons t texts ih =>
      cases texts with
      | nil => exact .last t
      | cons u texts =>
          refine .next (List.cons_ne_nil _ _) (fun c hc => ?_) ih
          obtain rfl := List.mem_singleton.mp hc
          rfl

/-- What a **segment admits** in its place: a word with the same letters up to case, or a text that the
pattern of the parameter's values matches as a whole. -/
def Segment.Admits : Segment → Text → Prop
  | .word w, t => Text.sameLetters w t = true
  | .value p, t => ∃ fragment, Catalog.standard.pattern p.type p.name = .ok fragment ∧
      (fragment.fullMatch? t).isSome = true

/-- **A text reads as a phrase** with parameters: for some placement of the parameters, it consists of
texts for the segments of the phrase and then for the parameters without a place, in their order, with
white space between neighbours and perhaps around them all. -/
def PhraseReading (phrase : Text) (parameters : List Parameter) (body : Text) : Prop :=
  ∃ placement, IsPlacement ((Text.words phrase).map Text.lower) parameters placement ∧
    ∃ inPhrase, Segmentation (Text.words phrase) placement 0 inPhrase ∧
      ∃ texts line lead trail,
        List.Forall₂ Segment.Admits
          (inPhrase ++ (placement.filter fun entry => entry.2.isNone).map fun entry => .value entry.1)
          texts ∧
        Spaced texts line ∧ body = lead ++ line ++ trail ∧
        (∀ c ∈ lead, isBlank c = true) ∧ ∀ c ∈ trail, isBlank c = true

/-! ### Patterns of segments -/

section

variable {parameters : List Parameter}

/-- The pattern of a segment describes **what the segment admits**. -/
theorem matches_part_iff (h : RegularParameters parameters) {segment : Segment}
    (hsegment : segment.MadeOf parameters) {t : Text} :
    segment.part.pattern.Matches t ↔ segment.Admits t := by
  cases segment with
  | word w => rfl
  | value p =>
      show p.fragment.Matches t ↔ _
      rw [← Pattern.fullMatch?_isSome_iff]
      constructor
      · intro hmatch
        exact ⟨p.fragment, (h.pattern_eq hsegment).1, hmatch⟩
      · rintro ⟨fragment, hfragment, hmatch⟩
        rw [(h.pattern_eq hsegment).1] at hfragment
        exact Except.ok.inj hfragment ▸ hmatch

/-- Parts that have to be there, behind another pattern, describe **their texts with white space in front
of each**. The induction goes along the parts; the pattern in front is the part before. -/
theorem matches_followers_iff {parts : List PhrasePart} (hparts : ∀ part ∈ parts, part.optional = false)
    {p : Pattern} {line : Text} :
    (Pattern.sequence (p :: followers false parts)).Matches line ↔
      ∃ t texts, p.Matches t ∧ List.Forall₂ (fun part t => part.pattern.Matches t) parts texts ∧
        Spaced (t :: texts) line := by
  induction parts generalizing p line with
  | nil =>
      constructor
      · intro h
        exact ⟨line, [], h, .nil, .last line⟩
      · rintro ⟨t, texts, h, hnil, hspaced⟩
        cases hnil
        cases hspaced
        exact h
  | cons part rest ih =>
      obtain ⟨hpart, hrest⟩ := List.forall_mem_cons.mp hparts
      have hfollowers : followers false (part :: rest) =
          .chars .blank .some :: part.pattern :: followers false rest := by
        rw [followers, followingPatterns, if_neg (by simp [hpart])]
        rfl
      rw [hfollowers, Pattern.matches_sequence_cons]
      constructor
      · rintro ⟨t, v, rfl, ht, hv⟩
        obtain ⟨gap, line, rfl, hgap, hline⟩ := Pattern.matches_sequence_cons.mp hv
        obtain ⟨hne, hblank⟩ := Pattern.matches_someBlanks.mp hgap
        obtain ⟨u, texts, hu, htexts, hspaced⟩ := (ih hrest).mp hline
        refine ⟨t, u :: texts, ht, .cons hu htexts, ?_⟩
        rw [← List.append_assoc]
        exact .next hne hblank hspaced
      · rintro ⟨t, _, ht, hall, hspaced⟩
        cases hall with
        | cons hu htexts =>
            cases hspaced with
            | @next _ _ gap line _ hne hblank hspaced =>
                refine ⟨t, gap ++ line, List.append_assoc _ _ _, ht, ?_⟩
                have hline := (ih hrest).mpr ⟨_, _, hu, htexts, hspaced⟩
                exact Pattern.matches_sequence_cons.mpr ⟨gap, line, rfl,
                  Pattern.matches_someBlanks.mpr ⟨hne, hblank⟩, hline⟩

/-- **Joined parts** that have to be there describe their texts with white space between neighbours. -/
theorem matches_joinParts_iff {parts : List PhrasePart}
    (hparts : ∀ part ∈ parts, part.optional = false) {line : Text} :
    (joinParts parts).Matches line ↔
      ∃ texts, List.Forall₂ (fun part t => part.pattern.Matches t) parts texts ∧
        Spaced texts line := by
  cases parts with
  | nil =>
      constructor
      · rintro rfl
        exact ⟨[], .nil, .none⟩
      · rintro ⟨texts, hnil, hspaced⟩
        cases hnil
        cases hspaced
        rfl
  | cons part rest =>
      obtain ⟨hpart, hrest⟩ := List.forall_mem_cons.mp hparts
      have hleading : part.leading = part.pattern := by
        rw [PhrasePart.leading, if_neg (by simp [hpart])]
      rw [joinParts_cons, hleading, hpart, matches_followers_iff hrest]
      constructor
      · rintro ⟨t, texts, ht, htexts, hspaced⟩
        exact ⟨t :: texts, .cons ht htexts, hspaced⟩
      · rintro ⟨_, hall, hspaced⟩
        cases hall with
        | cons ht htexts => exact ⟨_, _, ht, htexts, hspaced⟩

/-- The pattern of a placement matches the texts that **read as its segments**. -/
theorem match?_placementPattern_iff (h : RegularParameters parameters)
    (hdefault : ∀ p ∈ parameters, p.hasDefault = false) {words : List Text} {placement : Placement}
    (hmade : ∀ segment ∈ segmentsOf words placement, segment.MadeOf parameters) {body : Text} :
    ((placementPattern words placement).match? body).isSome = true ↔
      ∃ texts line lead trail,
        List.Forall₂ Segment.Admits (segmentsOf words placement) texts ∧ Spaced texts line ∧
        body = lead ++ line ++ trail ∧ (∀ c ∈ lead, isBlank c = true) ∧
        ∀ c ∈ trail, isBlank c = true := by
  have hmandatory : ∀ part ∈ (segmentsOf words placement).map Segment.part,
      part.optional = false := by
    intro part hpart
    obtain ⟨segment, hsegment, rfl⟩ := List.mem_map.mp hpart
    exact (hmade segment hsegment).optional_eq_false hdefault
  have hadmits : ∀ texts, List.Forall₂ (fun part t => part.pattern.Matches t)
      ((segmentsOf words placement).map Segment.part) texts ↔
        List.Forall₂ Segment.Admits (segmentsOf words placement) texts := by
    intro texts
    have hpart : ∀ {segment t}, (segment, t) ∈ (segmentsOf words placement).zip texts →
        (segment.part.pattern.Matches t ↔ segment.Admits t) := fun hmem =>
      matches_part_iff h (hmade _ (List.of_mem_zip hmem).1)
    rw [List.forall₂_map_left_iff, List.forall₂_iff_zip, List.forall₂_iff_zip]
    exact and_congr_right fun _ =>
      ⟨fun hall _ _ hmem => (hpart hmem).mp (hall hmem), fun hall _ _ hmem =>
        (hpart hmem).mpr (hall hmem)⟩
  rw [LinePattern.match?_isSome_iff]
  simp only [placementPattern, matches_joinParts_iff hmandatory, hadmits]
  constructor
  · rintro ⟨lead, line, trail, hbody, hlead, ⟨texts, htexts, hspaced⟩, htrail⟩
    exact ⟨texts, line, lead, trail, htexts, hspaced, hbody, hlead, htrail⟩
  · rintro ⟨texts, line, lead, trail, htexts, hspaced, hbody, hlead, htrail⟩
    exact ⟨lead, line, trail, hbody, hlead, ⟨texts, htexts, hspaced⟩, htrail⟩

/-- **Some placement's pattern** matches exactly the texts that read as the phrase. -/
theorem exists_placement_match?_iff (phrase : Text) (h : RegularParameters parameters)
    (hdefault : ∀ p ∈ parameters, p.hasDefault = false) (body : Text) :
    (∃ p ∈ (placements ((Text.words phrase).map Text.lower) parameters).map
        (placementPattern (Text.words phrase)), (p.match? body).isSome = true) ↔
      PhraseReading phrase parameters body := by
  have hlen : ((Text.words phrase).map Text.lower).length = (Text.words phrase).length :=
    List.length_map _
  constructor
  · rintro ⟨_, hmem, hmatch⟩
    obtain ⟨placement, hplacement, rfl⟩ := List.mem_map.mp hmem
    have hp := mem_placements_iff.mp hplacement
    exact ⟨placement, hp, _, segmentation_segments hp hlen,
      (match?_placementPattern_iff h hdefault (hp.madeOf_segmentsOf hlen fun _ => Text.mem_words)).mp hmatch⟩
  · rintro ⟨placement, hp, inPhrase, hinPhrase, hreading⟩
    obtain rfl := hinPhrase.unique hp hlen (segmentation_segments hp hlen)
    exact ⟨_, List.mem_map_of_mem (mem_placements_iff.mpr hp),
      (match?_placementPattern_iff h hdefault (hp.madeOf_segmentsOf hlen fun _ => Text.mem_words)).mpr hreading⟩

/-- **What the patterns of a phrase match.** With regular parameters, none of which has a default, the
patterns of a phrase can be made, and some pattern matches a text exactly if the text reads as the
phrase. -/
theorem exists_match?_iff_phraseReading (phrase : Text) (h : RegularParameters parameters)
    (hdefault : ∀ p ∈ parameters, p.hasDefault = false) :
    ∃ patterns, phrasePatterns Catalog.standard phrase parameters = .ok patterns ∧
      ∀ body, (∃ p ∈ patterns, (p.match? body).isSome = true) ↔
        PhraseReading phrase parameters body :=
  ⟨_, phrasePatterns_eq h, exists_placement_match?_iff phrase h hdefault⟩

/-- A phrase where one name stands within another, and one parameter is not mentioned. -/
theorem exists_match?_iff_phraseReading_boxes :
    let parameters : List Parameter := [⟨"box", some .int, false⟩, ⟨"big_box", some .text, false⟩,
      ⟨"weight", some (.union [.int, .nothing]), false⟩]
    RegularParameters parameters ∧ (∀ p ∈ parameters, p.hasDefault = false) ∧
      ∃ patterns,
        phrasePatterns Catalog.standard "Move the big box to the BOX" parameters = .ok patterns ∧
        ∀ body, (∃ p ∈ patterns, (p.match? body).isSome = true) ↔
          PhraseReading "Move the big box to the BOX" parameters body := by
  intro parameters
  have hregular : RegularParameters parameters := ⟨by decide, by decide, by decide⟩
  have hdefault : ∀ p ∈ parameters, p.hasDefault = false := by decide
  exact ⟨hregular, hdefault, exists_match?_iff_phraseReading _ hregular hdefault⟩

end

end PlainSpec
