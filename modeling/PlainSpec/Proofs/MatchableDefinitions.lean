import PlainSpec.Proofs.OptionalParts
import PlainSpec.Proofs.PhraseReading

/-!
# Definitions that can be matched

A definition that is not flagged as invalid has parameters whose values all have a pattern. There is a pattern
of the whole phrase for each choice of occurrences that do not overlap. Every such pattern matches something:
one puts a word in the place of each value and keeps all of the others.

But there need not be such a choice. If the only occurrence of one name is part of the only occurrence of
another, then the search drops all choices, the definition has no patterns, and nothing tells so.

## Main results

* `InlineKind.exists_sample`: the pattern of the values of a type describes a word.
* `matches_joinParts_of_spaced`: joined parts describe texts of all parts with white space between them.
* `Registry.matchable_iff_placement`: a definition that is not invalid has a pattern exactly if its
  parameters have a placement, and each of its patterns matches a line of words.
-/

namespace PlainSpec

/-! ### Samples of patterns -/

/-- A **sample** of a pattern: a text without white space that the pattern describes, and a word on a given
condition. -/
structure Pattern.Sample (p : Pattern) (named : Prop) (t : Text) : Prop where
  describes : p.Matches t
  inked : ∀ c ∈ t, isBlank c = false
  ne_nil : named → t ≠ []

namespace Pattern

variable {named : Prop} {p : Pattern} {ps : List Pattern} {t : Text}

/-- A word that a pattern **matches as a whole** is a sample of it. -/
theorem Sample.of_fullMatch? (h : (p.fullMatch? t).isSome = true)
    (ht : t ≠ [] ∧ t.all (fun c => !isBlank c) = true) : p.Sample named t where
  describes := fullMatch?_isSome_iff.mp h
  inked c hc := by simpa using List.all_eq_true.mp ht.2 c hc
  ne_nil _ := ht.1

/-- A sample of a pattern is also **captured** by it. -/
theorem Sample.capture (h : p.Sample named t) (name : Text) : (capture name p).Sample named t where
  describes := h.describes
  inked := h.inked
  ne_nil := h.ne_nil

/-- What one of several patterns describes is **described by all of them together**. -/
theorem matches_oneOf (hp : p ∈ ps) (h : p.Matches t) : (oneOf ps).Matches t :=
  (matches_oneOf_iff (List.ne_nil_of_mem hp)).mpr ⟨p, hp, h⟩

/-- Words that may have white space between them may also be written **as one**. -/
theorem matches_intersperse_flatten (words : List Text) :
    (sequence ((words.map literal).intersperse (chars .blank .many))).Matches words.flatten := by
  induction words with
  | nil => rfl
  | cons w rest ih =>
      cases rest with
      | nil =>
          rw [List.flatten_singleton]
          exact Text.sameLetters_refl w
      | cons v rest =>
          rw [List.map_cons, List.map_cons, List.intersperse_cons_cons, List.flatten_cons,
            matches_sequence_cons]
          refine ⟨w, _, rfl, Text.sameLetters_refl w, matches_sequence_cons.mpr ⟨[], _, rfl, ?_, ih⟩⟩
          exact matches_blanks.mpr (by simp)

end Pattern

/-- If the values of a type are the members of an enumeration, one of them is **called by a word**. -/
def CanBeNamed (type : Option ParamType) : Prop :=
  ∀ e, type = some (.enum e) → ∃ member ∈ e.members, Text.words (phraseOf member.1) ≠ []

namespace InlineKind

/-- A member is named by **the words of its name**, written as one. -/
theorem sample_memberPattern (name : Text) :
    (memberPattern name).Sample (Text.words (phraseOf name) ≠ []) (Text.words (phraseOf name)).flatten where
  describes := Pattern.matches_intersperse_flatten _
  inked c hc := by
    obtain ⟨w, hw, hc⟩ := List.mem_flatten.mp hc
    exact (Text.mem_words hw).2 c hc
  ne_nil hne hnil := by
    obtain ⟨w, hw⟩ := List.exists_mem_of_ne_nil _ hne
    exact (Text.mem_words hw).1 (List.flatten_eq_nil_iff.mp hnil w hw)

/-- The values of an **enumeration** have a sample, be it that for nothing or no text at all. -/
theorem exists_sample_members (e : Enumeration) (nullable : Bool) :
    ∃ t, (Pattern.oneOf (orNull nullable (.group (.literal nullWord))
      (e.members.map fun member => memberPattern member.1))).Sample (CanBeNamed (some (.enum e))) t := by
  have hmember : ∀ member ∈ e.members, memberPattern member.1 ∈ orNull nullable
      (.group (.literal nullWord)) (e.members.map fun member => memberPattern member.1) := by
    intro member hmem
    have hpattern := List.mem_map_of_mem (f := fun member => memberPattern member.1) hmem
    rw [orNull]
    split
    · exact List.mem_append_left _ hpattern
    · exact hpattern
  by_cases hnamed : CanBeNamed (some (.enum e))
  · obtain ⟨member, hmem, hne⟩ := hnamed e rfl
    have hsample := sample_memberPattern member.1
    exact ⟨_, Pattern.matches_oneOf (hmember member hmem) hsample.describes, hsample.inked,
      fun _ => hsample.ne_nil hne⟩
  · rcases hmembers : e.members with _ | ⟨member, others⟩
    · cases nullable with
      | false => exact ⟨[], rfl, by simp, fun h => absurd h hnamed⟩
      | true => exact ⟨nullWord, .of_fullMatch? (by decide) (by decide)⟩
    · have hsample := sample_memberPattern member.1
      rw [← hmembers]
      exact ⟨_, Pattern.matches_oneOf (hmember member (hmembers ▸ List.mem_cons_self)) hsample.describes,
        hsample.inked, fun h => absurd h hnamed⟩

/-- **The pattern of the values of a type has a sample**, and this is a word unless the type is an enumeration
none of whose members is called by one. -/
theorem exists_sample {kind : InlineKind} {type : Option ParamType} (hkind : kind ∈ Catalog.standard)
    (htype : kind.handles type = true) (nullable : Bool) {name : Text} (hname : '>' ∉ name) :
    ∃ t, (kind.pattern type nullable name).Sample (CanBeNamed type) t := by
  simp only [Catalog.standard, List.mem_cons, List.not_mem_nil, or_false] at hkind
  rcases hkind with rfl | rfl | rfl | rfl | rfl | rfl <;>
    simp only [pattern, Pattern.named_eq_capture hname]
  · -- an integer need not have an ordinal ending
    have hzero : (Pattern.oneOf (if nullable then [.group integerPattern, .group (.literal nullWord)]
        else [integerPattern])).Sample (CanBeNamed type) "0" :=
      .of_fullMatch? (by cases nullable <;> decide) (by decide)
    exact ⟨"0", ⟨"0", [], rfl, hzero.describes, .inr rfl⟩, hzero.inked, hzero.ne_nil⟩
  · exact ⟨"0", .capture (.of_fullMatch? (by cases nullable <;> decide) (by decide)) name⟩
  · exact ⟨"true", .capture (.of_fullMatch? (by cases nullable <;> decide) (by decide)) name⟩
  · obtain ⟨e, rfl⟩ : ∃ e, type = some (.enum e) := by
      unfold handles at htype
      split at htype <;> simp_all
    obtain ⟨t, ht⟩ := exists_sample_members e nullable
    exact ⟨t, ht.capture name⟩
  · exact ⟨"2000-01-01", .capture (.of_fullMatch? (by cases nullable <;> decide) (by decide)) name⟩
  · exact ⟨"x", .capture (.of_fullMatch? (by decide) (by decide)) name⟩

end InlineKind

/-- **The part of a segment has a sample.** -/
theorem exists_sample_segment {parameters : List Parameter} (h : RegularParameters parameters)
    {segment : Segment} (hsegment : segment.MadeOf parameters) :
    ∃ t, segment.part.pattern.Sample (∀ p ∈ parameters, CanBeNamed (unwrapType p.type).1) t := by
  cases segment with
  | word w => exact ⟨w, Text.sameLetters_refl w, hsegment.2, fun _ => hsegment.1⟩
  | value p =>
      obtain ⟨kind, hkind, htype, hpattern⟩ := Catalog.exists_pattern_of_handles (h.served p hsegment)
      obtain ⟨t, ht⟩ := InlineKind.exists_sample hkind htype (unwrapType p.type).2
        (h.bracket_notMem hsegment)
      have hfragment : (Segment.value p).part.pattern =
          kind.pattern (unwrapType p.type).1 (unwrapType p.type).2 p.name :=
        Except.ok.inj ((h.pattern_eq hsegment).1.symm.trans (hpattern p.name))
      rw [hfragment]
      exact ⟨t, ht.describes, ht.inked, fun hnamed => ht.ne_nil (hnamed p hsegment)⟩

/-! ### Lines of all parts -/

/-- Texts of parts that follow another text **trail** it. -/
theorem exists_trails_of_spaced {parts : List PhrasePart} {t line : Text} {texts : List Text}
    (htexts : List.Forall₂ (fun part t => part.pattern.Matches t) parts texts)
    (hline : Spaced (t :: texts) line) : ∃ v, line = t ++ v ∧ Trails parts v := by
  induction htexts generalizing t line with
  | nil =>
      cases hline
      exact ⟨[], (List.append_nil _).symm, .none⟩
  | cons hu _ ih =>
      cases hline with
      | next hne hblank hline =>
          obtain ⟨v, rfl, htrails⟩ := ih hline
          exact ⟨_, List.append_assoc _ _ _, .next hne hblank hu htrails⟩

/-- Parts behind another one, **all of them there**, whether or not this one was optional. -/
theorem matches_followers_of_trails {parts : List PhrasePart} {v : Text} (h : Trails parts v)
    (afterOptional : Bool) : (Pattern.sequence (followers afterOptional parts)).Matches v := by
  cases h with
  | none => rfl
  | @next part parts gap t rest hne hblank ht htrails =>
      have hall : (Pattern.sequence (followers false (part :: parts))).Matches (gap ++ (t ++ rest)) :=
        matches_followers_leavesOut.mpr ⟨_, .refl _, .next hne hblank ht htrails⟩
      cases afterOptional with
      | false => exact hall
      | true =>
          rcases hpart : part.optional with _ | _
          · exact (matches_followers_afterOptional hpart).mpr
              ⟨gap, t, rest, parts, rfl, hblank, ht, .refl _, htrails⟩
          · rwa [followers_of_optional hpart]

/-- **Joined parts describe texts of all parts** with white space between neighbours, whichever of the parts
could be left out. -/
theorem matches_joinParts_of_spaced {parts : List PhrasePart} {texts : List Text} {line : Text}
    (htexts : List.Forall₂ (fun part t => part.pattern.Matches t) parts texts)
    (hline : Spaced texts line) : (joinParts parts).Matches line := by
  cases htexts with
  | nil =>
      cases hline
      rfl
  | @cons first t rest texts ht htexts =>
      obtain ⟨v, rfl, htrails⟩ := exists_trails_of_spaced htexts hline
      rw [joinParts_cons, Pattern.matches_sequence_cons]
      refine ⟨t, v, rfl, ?_, matches_followers_of_trails htrails _⟩
      rw [PhrasePart.leading]
      split
      · exact .inl ht
      · exact ht

/-! ### Patterns of definitions -/

/-- **The pattern of a placement matches a line** of samples, one for each segment. -/
theorem exists_match?_placementPattern {words : List Text} {parameters : List Parameter}
    {placement : Placement} (h : RegularParameters parameters)
    (hmade : ∀ segment ∈ segmentsOf words placement, segment.MadeOf parameters) :
    ∃ texts, ((placementPattern words placement).match? (Text.join " " texts)).isSome = true ∧
      ∀ t ∈ texts, (∀ c ∈ t, isBlank c = false) ∧
        ((∀ p ∈ parameters, CanBeNamed (unwrapType p.type).1) → t ≠ []) := by
  choose! sample hsample using fun (segment : Segment) (hsegment : segment.MadeOf parameters) =>
    exists_sample_segment h hsegment
  have hdescribes : List.Forall₂ (fun part t => part.pattern.Matches t)
      ((segmentsOf words placement).map Segment.part) ((segmentsOf words placement).map sample) := by
    rw [List.forall₂_map_left_iff, List.forall₂_map_right_iff, List.forall₂_same]
    exact fun segment hsegment => (hsample segment (hmade segment hsegment)).describes
  refine ⟨_, LinePattern.match?_isSome_iff.mpr ⟨[], _, [], (List.append_nil _).symm, by simp,
    matches_joinParts_of_spaced hdescribes (spaced_join _), by simp⟩, fun t ht => ?_⟩
  obtain ⟨segment, hsegment, rfl⟩ := List.mem_map.mp ht
  have hsample := hsample segment (hmade segment hsegment)
  exact ⟨hsample.inked, hsample.ne_nil⟩

/-- **What registering gives**: the definition comes last, it has made no patterns, and it is valid exactly if
the catalog serves all of its inline parameters. -/
theorem Registry.register_spec {r r' : Registry} {d : Definition} {name : Text} {kind : Option StepKind}
    {parameters : List Parameter} {function : StepFunction}
    (h : r.register name kind parameters function = .ok (d, r')) :
    r'.definitions = r.definitions ++ [d] ∧ d.patterns = none ∧
      (d.isValid = true ↔ ∀ p ∈ d.inlineParameters, r.catalog.handles p.type = true) := by
  simp only [register] at h
  split at h
  · exact absurd h (by simp)
  · obtain ⟨rfl, rfl⟩ := Prod.mk.inj (Except.ok.inj h)
    refine ⟨rfl, rfl, ?_⟩
    simp only [Definition.isValid, Option.isNone_map, Option.isNone_iff_eq_none, List.find?_eq_none,
      Definition.inlineParameters, Bool.not_eq_true, Bool.not_eq_false']

/-- A definition that is not valid **is noted** when it is registered: the position behind the others, which is
where it is appended. -/
theorem Registry.mem_invalid_of_register {r r' : Registry} {d : Definition} {name : Text}
    {kind : Option StepKind} {parameters : List Parameter} {function : StepFunction}
    (h : r.register name kind parameters function = .ok (d, r')) (hfault : d.isValid = false) :
    d ∈ r'.invalid := by
  simp only [register] at h
  split at h
  · exact absurd h (by simp)
  · obtain ⟨rfl, rfl⟩ := Prod.mk.inj (Except.ok.inj h)
    rw [Definition.isValid_eq_false_iff] at hfault
    refine List.mem_filterMap.mpr ⟨r.definitions.length, ?_, List.getElem?_concat_length⟩
    rw [if_pos hfault]
    exact List.mem_append_right _ List.mem_cons_self

/-- **When a definition can be matched.** Register a definition whose inline parameters have different
identifiers as names. If it is not among the invalid ones, its patterns can be made. There is one exactly if
the parameters can be placed in the phrase: each whose name the phrase spells at one of the runs that spell it,
with no word in common. Each pattern matches a line of texts without white space, one for each segment of the
phrase, and these are words if there is one for a member of each enumeration. -/
theorem Registry.matchable_iff_placement {r r' : Registry} {d : Definition} {name : Text}
    {kind : Option StepKind} {parameters : List Parameter} {function : StepFunction}
    (hcatalog : r.catalog = Catalog.standard)
    (hregister : r.register name kind parameters function = .ok (d, r'))
    (hidentifier : ∀ p ∈ d.inlineParameters, isIdentifier p.name = true)
    (hdifferent : (d.inlineParameters.map Parameter.name).Nodup) (hvalid : d ∉ r'.invalid) :
    ∃ patterns, d.compile Catalog.standard = .ok (patterns, { d with patterns := some patterns }) ∧
      (patterns ≠ [] ↔ ∃ placement,
        IsPlacement ((Text.words d.phrase).map Text.lower) d.inlineParameters placement) ∧
      ∀ pattern ∈ patterns, ∃ texts, (pattern.match? (Text.join " " texts)).isSome = true ∧
        ∀ t ∈ texts, (∀ c ∈ t, isBlank c = false) ∧
          ((∀ p ∈ d.inlineParameters, CanBeNamed (unwrapType p.type).1) → t ≠ []) := by
  obtain ⟨-, hpatterns, hserved⟩ := register_spec hregister
  have hisValid : d.isValid = true := by
    by_contra hfault
    exact hvalid (mem_invalid_of_register hregister (Bool.not_eq_true _ ▸ hfault))
  have hregular : RegularParameters d.inlineParameters :=
    ⟨hidentifier, hcatalog ▸ hserved.mp hisValid, hdifferent⟩
  have hcompile := Definition.compile_of_regular hregular
  rw [show ({ d with patterns := none } : Definition) = d by rw [← hpatterns]] at hcompile
  refine ⟨_, hcompile, ?_, ?_⟩
  · rw [Ne, List.map_eq_nil_iff, List.eq_nil_iff_forall_not_mem]
    simp only [mem_placements_iff, not_forall, not_not]
  · rintro _ hpattern
    obtain ⟨placement, hplacement, rfl⟩ := List.mem_map.mp hpattern
    have hp := mem_placements_iff.mp hplacement
    exact exists_match?_placementPattern hregular
      (hp.madeOf_segmentsOf (List.length_map _) fun _ => Text.mem_words)

/-- A **name and a user name**, of which the first is spelled wherever the second is. -/
def userParameters : List Parameter := [⟨"name", some .text, false⟩, ⟨"user_name", some .text, true⟩]

/-- A **definition** with these parameters. -/
def userDefinition (name : Text) : Definition :=
  ⟨name, .context, userParameters, ⟨"user", false, fun _ _ => none⟩, none, none⟩

/-- A phrase that spells the name **a second time** has a pattern. -/
theorem Registry.matchable_iff_placement_user :
    (∀ p ∈ (userDefinition "given_name_of_user_name").inlineParameters, isIdentifier p.name = true) ∧
      ((userDefinition "given_name_of_user_name").inlineParameters.map Parameter.name).Nodup ∧
      (Registry.empty Catalog.standard).register "given_name_of_user_name" none userParameters
          ⟨"user", false, fun _ _ => none⟩ =
        .ok (userDefinition "given_name_of_user_name",
          ⟨Catalog.standard, [userDefinition "given_name_of_user_name"], []⟩) ∧
      userDefinition "given_name_of_user_name" ∉
        (⟨Catalog.standard, [userDefinition "given_name_of_user_name"], []⟩ : Registry).invalid ∧
      ∃ pattern, ∃ texts, (pattern.match? (Text.join " " texts)).isSome = true ∧ (∀ t ∈ texts, t ≠ []) ∧
        ∃ patterns e, pattern ∈ patterns ∧
          (userDefinition "given_name_of_user_name").compile Catalog.standard = .ok (patterns, e) := by
  have hidentifier : ∀ p ∈ (userDefinition "given_name_of_user_name").inlineParameters,
      isIdentifier p.name = true := by decide +kernel
  have hdifferent : ((userDefinition "given_name_of_user_name").inlineParameters.map
      Parameter.name).Nodup := by decide
  have hregister : (Registry.empty Catalog.standard).register "given_name_of_user_name" none
      userParameters ⟨"user", false, fun _ _ => none⟩ = .ok (userDefinition "given_name_of_user_name",
        ⟨Catalog.standard, [userDefinition "given_name_of_user_name"], []⟩) := rfl
  have hvalid : userDefinition "given_name_of_user_name" ∉
      (⟨Catalog.standard, [userDefinition "given_name_of_user_name"], []⟩ : Registry).invalid :=
    List.not_mem_nil
  obtain ⟨patterns, hcompile, hplacement, hmatch⟩ :=
    Registry.matchable_iff_placement rfl hregister hidentifier hdifferent hvalid
  have hspelled : placements ((Text.words (userDefinition "given_name_of_user_name").phrase).map Text.lower)
      (userDefinition "given_name_of_user_name").inlineParameters =
        [userParameters.zip [some ⟨0, 1⟩, some ⟨2, 4⟩]] := rfl
  obtain ⟨pattern, hpattern⟩ := List.exists_mem_of_ne_nil _ (hplacement.mpr
    ⟨_, mem_placements_iff.mp (hspelled ▸ List.mem_cons_self)⟩)
  obtain ⟨texts, htexts, hwords⟩ := hmatch pattern hpattern
  have hnamed : ∀ p ∈ (userDefinition "given_name_of_user_name").inlineParameters,
      CanBeNamed (unwrapType p.type).1 := by
    intro p hp e he
    rcases List.mem_pair.mp hp with rfl | rfl <;>
      exact absurd he (by simp [unwrapType, ParamType.unwrapOptional])
  exact ⟨hidentifier, hdifferent, hregister, hvalid, pattern, texts, htexts,
    fun t ht => (hwords t ht).2 hnamed, patterns, _, hpattern, hcompile⟩

/-- A phrase that spells the name **only in the user name** has none, and the definition is not invalid. -/
theorem unmatchable_user :
    (∀ p ∈ (userDefinition "given_a_user_name").inlineParameters,
        isIdentifier p.name = true ∧ Catalog.standard.handles p.type = true) ∧
      ((userDefinition "given_a_user_name").inlineParameters.map Parameter.name).Nodup ∧
      (Registry.empty Catalog.standard).register "given_a_user_name" none userParameters
          ⟨"user", false, fun _ _ => none⟩ =
        .ok (userDefinition "given_a_user_name",
          ⟨Catalog.standard, [userDefinition "given_a_user_name"], []⟩) ∧
      (⟨Catalog.standard, [userDefinition "given_a_user_name"], []⟩ : Registry).invalid = [] ∧
      phrasePatterns Catalog.standard (userDefinition "given_a_user_name").phrase
        (userDefinition "given_a_user_name").inlineParameters = .ok [] :=
  ⟨by decide +kernel, by decide, rfl, rfl, rfl⟩

end PlainSpec
