import PlainSpec.Definition.Registry
import PlainSpec.Proofs.DistinctKeys
import PlainSpec.Proofs.Outcomes
import PlainSpec.Proofs.PhraseSource
import PlainSpec.Proofs.WhiteSpace

/-!
# The patterns of a phrase

With regular parameters nothing goes wrong while the patterns of a phrase are made, and no two of them are
written alike. So there is exactly one pattern for each placement, joined from the parts of its segments.

## Main results

* `phrasePatterns_eq`: the patterns of a phrase.
* `CapturesByName.isUsable_iff`, `isUsable_placementPattern`: whether each of them can be used.
* `Definition.compile_of_regular`: so they are the patterns of a definition.
-/

namespace PlainSpec

/-- With regular parameters, the names of the captures are **the names of the parameters**. -/
theorem lookup_captureNames {parameters : List Parameter} (h : RegularParameters parameters)
    {p : Parameter} (hp : p ∈ parameters) :
    (captureNames parameters).lookup p.name = some p.name := by
  have hpairs : captureNames parameters = Entries.ofPairs (parameters.map fun p => (p.name, p.name)) := by
    rw [captureNames]
    refine congrArg Entries.ofPairs ?_
    conv_rhs => rw [← List.zipIdx_map_fst 0 parameters, List.map_map]
    refine List.map_congr_left fun entry hentry => ?_
    have hname := h.identifier entry.1 (List.fst_mem_of_mem_zipIdx hentry)
    simp [hname]
  have hnodup : ((parameters.map fun p => (p.name, p.name)).map Prod.fst).Nodup := by
    rw [List.map_map]
    exact h.different
  rw [hpairs, Entries.ofPairs_eq_self hnodup]
  exact Entries.lookup_of_mem hnodup (List.mem_map_of_mem (f := fun p => (p.name, p.name)) hp)

/-! ### Parts of values -/

/-- The **part of a value** in patterns whose captures are named like this. -/
def valuePart (names : Record) (p : Parameter) : PhrasePart :=
  match parameterPart Catalog.standard names p with
  | .ok part => part
  | .error _ => ⟨.nothing, p.hasDefault⟩

/-- A parameter of a type that the customary catalog serves **has its part**, made by the kind of values that
serves the type. -/
theorem exists_valuePart_eq {p : Parameter} (h : Catalog.standard.handles p.type = true) (names : Record) :
    parameterPart Catalog.standard names p = .ok (valuePart names p) ∧
      ∃ kind ∈ Catalog.standard, kind.handles (unwrapType p.type).1 = true ∧
        valuePart names p = ⟨kind.pattern (unwrapType p.type).1 (unwrapType p.type).2
          ((names.lookup p.name).getD []), p.hasDefault⟩ := by
  obtain ⟨kind, hkind, hhandles, hpattern⟩ := Catalog.exists_pattern_of_handles h
  have hpart : parameterPart Catalog.standard names p = .ok ⟨kind.pattern (unwrapType p.type).1
      (unwrapType p.type).2 ((names.lookup p.name).getD []), p.hasDefault⟩ := by
    rw [parameterPart, hpattern]
  have hvalue : valuePart names p = ⟨kind.pattern (unwrapType p.type).1
      (unwrapType p.type).2 ((names.lookup p.name).getD []), p.hasDefault⟩ := by
    rw [valuePart, hpart]
  exact ⟨by rw [hpart, hvalue], kind, hkind, hhandles, hvalue⟩

/-- This part is **optional if the parameter has a default**. -/
theorem parameterPart_eq_valuePart {p : Parameter} (h : Catalog.standard.handles p.type = true)
    (names : Record) :
    parameterPart Catalog.standard names p = .ok (valuePart names p) ∧
      (valuePart names p).optional = p.hasDefault := by
  obtain ⟨hpart, kind, -, -, hvalue⟩ := exists_valuePart_eq h names
  exact ⟨hpart, by rw [hvalue]⟩

/-! ### Parts of segments -/

/-- The **segments of a phrase** under a placement: those of its words, and then the parameters that have
no place among them. -/
def segmentsOf (words : List Text) (placement : Placement) : List Segment :=
  segmentsFrom placement 0 0 words ++
    (placement.filter fun entry => entry.2.isNone).map fun entry => .value entry.1

/-- The part of a regular parameter is **the part of its segment**. -/
theorem parameterPart_eq {parameters : List Parameter} (h : RegularParameters parameters)
    {p : Parameter} (hp : p ∈ parameters) :
    parameterPart Catalog.standard (captureNames parameters) p = .ok (Segment.value p).part := by
  rw [parameterPart, lookup_captureNames h hp, Option.getD_some, (h.pattern_eq hp).1]
  rfl

/-- The part of a segment, where the **parts of values** are given. -/
def Segment.partBy (value : Parameter → PhrasePart) : Segment → PhrasePart
  | .word w => ⟨.literal w, false⟩
  | .value p => value p

/-- The part of a segment, where the part of a value is **its fragment**. -/
theorem Segment.partBy_part : Segment.partBy (fun p => (Segment.value p).part) = Segment.part := by
  funext segment
  cases segment <;> rfl

section

variable {part : Parameter → Except Failure PhrasePart} {value : Parameter → PhrasePart}
  {placement : Placement}

/-- Where every parameter has its part, the parts of the words are **those of the segments**. -/
theorem wordParts_eq (hpart : ∀ entry ∈ placement, part entry.1 = .ok (value entry.1))
    (rest : List Text) : ∀ position skip,
      wordParts part placement position skip rest =
        .ok ((segmentsFrom placement position skip rest).map (Segment.partBy value)) := by
  induction rest with
  | nil =>
      intro position skip
      cases skip <;> rfl
  | cons word rest ih =>
      intro position skip
      cases skip with
      | succ skip => exact ih (position + 1) skip
      | zero =>
          rcases hplace : placeAt? placement position with _ | ⟨p, span⟩
          · have hnone := hplace
            rw [placeAt?] at hnone
            simp only [wordParts, hnone, segmentsFrom, hplace, ih]
            rfl
          · have hpart := hpart _ (placeAt?_eq_some hplace).1
            have hsome := hplace
            rw [placeAt?] at hsome
            simp only [wordParts, hsome, segmentsFrom, hplace, hpart, ih]
            rfl

/-- Where every parameter has its part, the parts of a placement are **those of the segments**. -/
theorem placementParts_eq (hpart : ∀ entry ∈ placement, part entry.1 = .ok (value entry.1))
    (words : List Text) :
    placementParts part words placement = .ok ((segmentsOf words placement).map (Segment.partBy value)) := by
  have hend : (placement.filter fun entry => entry.2.isNone).mapM (fun entry => part entry.1) =
      .ok ((placement.filter fun entry => entry.2.isNone).map fun entry => value entry.1) :=
    mapM_eq_ok fun entry hentry => hpart entry (List.mem_of_mem_filter hentry)
  rw [placementParts, wordParts_eq hpart, hend, segmentsOf, List.map_append, List.map_map]
  rfl

/-- If the words have their parts, then so has **each parameter** among the segments. -/
theorem exists_part_of_wordParts {p : Parameter} {rest : List Text} : ∀ {position skip parts},
    wordParts part placement position skip rest = .ok parts →
      .value p ∈ segmentsFrom placement position skip rest → ∃ x, part p = .ok x := by
  induction rest with
  | nil =>
      intro position skip parts _ hp
      cases skip <;> exact absurd hp List.not_mem_nil
  | cons word rest ih =>
      intro position skip parts h hp
      cases skip with
      | succ skip => exact ih h hp
      | zero =>
          rcases hplace : placeAt? placement position with _ | ⟨q, span⟩ <;> simp only [segmentsFrom, hplace] at hp <;>
            rw [placeAt?] at hplace <;> simp only [wordParts, hplace] at h
          · obtain ⟨others, hothers, -⟩ := exists_of_bind_eq_ok h
            exact ih hothers ((List.mem_cons.mp hp).resolve_left (by simp))
          · obtain ⟨first, hfirst, h⟩ := exists_of_bind_eq_ok h
            obtain ⟨others, hothers, -⟩ := exists_of_bind_eq_ok h
            rcases List.mem_cons.mp hp with heq | hp
            · obtain rfl := Segment.value.inj heq
              exact ⟨first, hfirst⟩
            · exact ih hothers hp

/-- If a placement has its parts, then so has **each parameter** among the segments. -/
theorem exists_part_of_placementParts {p : Parameter} {words : List Text} {parts : List PhrasePart}
    (h : placementParts part words placement = .ok parts) (hp : .value p ∈ segmentsOf words placement) :
    ∃ x, part p = .ok x := by
  obtain ⟨inPhrase, hwords, h⟩ := exists_of_bind_eq_ok h
  obtain ⟨atEnd, hend, -⟩ := exists_of_bind_eq_ok h
  rcases List.mem_append.mp hp with hp | hp
  · exact exists_part_of_wordParts hwords hp
  · obtain ⟨entry, hentry, heq⟩ := List.mem_map.mp hp
    obtain rfl := Segment.value.inj heq
    obtain ⟨x, -, hx⟩ := exists_mem_of_mapM hend hentry
    exact ⟨x, hx⟩

end

/-! ### Segments of placements -/

section

variable {lowered words : List Text} {parameters : List Parameter} {placement : Placement}

/-- The parameters **without a place** are the same in every placement. -/
theorem IsPlacement.unplaced_eq {placement' : Placement} (h : IsPlacement lowered parameters placement)
    (h' : IsPlacement lowered parameters placement') :
    (placement.filter fun entry => entry.2.isNone).map Prod.fst =
      (placement'.filter fun entry => entry.2.isNone).map Prod.fst := by
  classical
  have hunplaced : ∀ {placement : Placement}, IsPlacement lowered parameters placement →
      (placement.filter fun entry => entry.2.isNone).map Prod.fst =
        parameters.filter fun p => ∀ span, ¬ Spells lowered p.words span := by
    intro placement h
    rw [← h.parameters, List.filter_map]
    congr 1
    refine List.filter_congr fun entry hentry => ?_
    obtain ⟨p, _ | span⟩ := entry
    · simpa using h.unspelled p hentry
    · simpa using ⟨span, h.spelled p span hentry⟩
  rw [hunplaced h, hunplaced h']

/-- The segments of a placement are **made of the parameters**, if the words are words. -/
theorem IsPlacement.madeOf_segmentsOf (h : IsPlacement lowered parameters placement)
    (hlen : lowered.length = words.length)
    (hwords : ∀ w ∈ words, w ≠ [] ∧ ∀ c ∈ w, isBlank c = false) :
    ∀ segment ∈ segmentsOf words placement, segment.MadeOf parameters := by
  intro segment hsegment
  have hs := segmentation_segments h hlen
  rcases List.mem_append.mp hsegment with hsegment | hsegment
  · cases segment with
    | word w => exact hwords w (hs.mem_words hsegment)
    | value p =>
        obtain ⟨span, hmem, -⟩ := hs.exists_span h hsegment
        exact h.mem_parameters hmem
  · obtain ⟨entry, hentry, rfl⟩ := List.mem_map.mp hsegment
    exact h.mem_parameters (List.mem_of_mem_filter hentry)

/-- **Different placements** have different segments. -/
theorem IsPlacement.eq_of_segmentsOf {placement' : Placement} (hnodup : parameters.Nodup)
    (h : IsPlacement lowered parameters placement) (h' : IsPlacement lowered parameters placement')
    (hlen : lowered.length = words.length)
    (heq : segmentsOf words placement = segmentsOf words placement') : placement = placement' := by
  have hend := congrArg (List.map Segment.value) (h.unplaced_eq h')
  rw [List.map_map, List.map_map] at hend
  unfold segmentsOf at heq
  rw [show ((placement.filter fun entry => entry.2.isNone).map fun entry => Segment.value entry.1) =
    (placement'.filter fun entry => entry.2.isNone).map fun entry => Segment.value entry.1
    from hend] at heq
  have hs := segmentation_segments h hlen
  rw [List.append_cancel_right heq] at hs
  exact h.eq_of_segmentation hnodup h' hlen hs (segmentation_segments h' hlen)

/-- Every parameter **has a place**, be it none. -/
theorem IsPlacement.exists_place (h : IsPlacement lowered parameters placement) {p : Parameter}
    (hp : p ∈ parameters) : (p, none) ∈ placement ∨ ∃ span, (p, some span) ∈ placement := by
  rw [← h.parameters] at hp
  obtain ⟨⟨q, place⟩, hmem, rfl⟩ := List.mem_map.mp hp
  obtain _ | span := place
  · exact .inl hmem
  · exact .inr ⟨span, hmem⟩

/-- **Every parameter** stands among the segments. -/
theorem IsPlacement.value_mem_segmentsOf (h : IsPlacement lowered parameters placement)
    (hlen : lowered.length = words.length) {p : Parameter} (hp : p ∈ parameters) :
    .value p ∈ segmentsOf words placement := by
  rcases h.exists_place hp with hmem | ⟨span, hmem⟩
  · exact List.mem_append_right _ (List.mem_map.mpr ⟨_, List.mem_filter.mpr ⟨hmem, rfl⟩, rfl⟩)
  · exact List.mem_append_left _ ((segmentation_segments h hlen).value_mem h hlen hmem (Nat.zero_le _))

/-- **Every parameter stands once** among the segments. -/
theorem IsPlacement.parameters_segmentsOf (hnodup : parameters.Nodup)
    (h : IsPlacement lowered parameters placement) (hlen : lowered.length = words.length) :
    ((segmentsOf words placement).filterMap Segment.parameter?).Perm parameters := by
  have hs := segmentation_segments h hlen
  have hends : ((placement.filter fun entry => entry.2.isNone).map fun entry =>
      Segment.value entry.1).filterMap Segment.parameter? =
        (placement.filter fun entry => entry.2.isNone).map Prod.fst := by
    rw [List.filterMap_map, ← List.filterMap_eq_map]
    rfl
  have hnone : ∀ p, p ∈ (placement.filter fun entry => entry.2.isNone).map Prod.fst ↔
      (p, none) ∈ placement := by
    intro p
    simp
  rw [segmentsOf, List.filterMap_append, hends]
  refine (List.perm_ext_iff_of_nodup ?_ hnodup).mpr fun p => ?_
  · refine List.nodup_append.mpr ⟨hs.values_nodup h hnodup, ?_, ?_⟩
    · rw [← h.parameters] at hnodup
      exact hnodup.sublist (List.filter_sublist.map _)
    · rintro p hp q hq rfl
      obtain ⟨span, hmem, -⟩ := hs.exists_span h (mem_filterMap_parameter?.mp hp)
      exact absurd (h.place_unique hnodup hmem ((hnone p).mp hq)) (by simp)
  · rw [List.mem_append, mem_filterMap_parameter?, hnone]
    constructor
    · rintro (hp | hp)
      · obtain ⟨span, hmem, -⟩ := hs.exists_span h hp
        exact h.mem_parameters hmem
      · exact h.mem_parameters hp
    · intro hp
      rcases h.exists_place hp with hmem | ⟨span, hmem⟩
      · exact .inr hmem
      · exact .inl (hs.value_mem h hlen hmem (Nat.zero_le _))

end

/-! ### The patterns -/

/-- The **pattern of a placement**. -/
def placementPattern (words : List Text) (placement : Placement) : LinePattern :=
  ⟨joinParts ((segmentsOf words placement).map Segment.part)⟩

/-- A list without repetitions is what **dropping repetitions** leaves of it. -/
theorem foldl_unseen_eq {α : Type} {key : α → Text} {l : List α} (h : (l.map key).Nodup) :
    l.foldl (fun seen a => if seen.any fun b => key b == key a then seen else seen ++ [a]) [] = l := by
  have hfold : ∀ rest seen : List α, ((seen ++ rest).map key).Nodup →
      rest.foldl (fun seen a => if seen.any fun b => key b == key a then seen else seen ++ [a]) seen =
        seen ++ rest := by
    intro rest
    induction rest with
    | nil => simp
    | cons a rest ih =>
        intro seen hnodup
        have hunseen : ¬ (seen.any fun b => key b == key a) = true := by
          rw [List.map_append, List.map_cons, List.nodup_middle, List.nodup_cons] at hnodup
          rw [List.any_eq_true]
          rintro ⟨b, hb, hkey⟩
          refine hnodup.1 (List.mem_append_left _ ?_)
          rw [← beq_iff_eq.mp hkey]
          exact List.mem_map_of_mem hb
        rw [List.foldl_cons, if_neg hunseen, ih _ (by simpa using hnodup), List.append_assoc,
          List.singleton_append]
  exact hfold l [] h

section

variable {catalog : Catalog} {phrase : Text} {parameters : List Parameter}

/-- Patterns of different placements are **written differently**. -/
theorem source_placementPattern_inj (h : RegularParameters parameters) {placement placement' : Placement}
    (hp : IsPlacement ((Text.words phrase).map Text.lower) parameters placement)
    (hp' : IsPlacement ((Text.words phrase).map Text.lower) parameters placement')
    (heq : (placementPattern (Text.words phrase) placement).source =
      (placementPattern (Text.words phrase) placement').source) : placement = placement' := by
  have hlen : ((Text.words phrase).map Text.lower).length = (Text.words phrase).length :=
    List.length_map _
  refine hp.eq_of_segmentsOf h.nodup hp' hlen (source_joinParts_inj h
    (hp.madeOf_segmentsOf hlen fun _ => Text.mem_words) (hp'.madeOf_segmentsOf hlen fun _ => Text.mem_words) ?_)
  exact List.append_cancel_left (List.append_cancel_right heq)

/-- **The patterns of a phrase**, where every parameter has its part: one for each placement, apart from
repetitions. -/
theorem phrasePatterns_of_parts {value : Parameter → PhrasePart}
    (hpart : ∀ p ∈ parameters, parameterPart catalog (captureNames parameters) p = .ok (value p))
    (phrase : Text) :
    phrasePatterns catalog phrase parameters =
      .ok (((placements ((Text.words phrase).map Text.lower) parameters).map fun placement =>
        ⟨joinParts ((segmentsOf (Text.words phrase) placement).map (Segment.partBy value))⟩).foldl
          (fun seen p => if seen.any fun q => q.source == p.source then seen else seen ++ [p]) []) := by
  have hpattern : ∀ placement ∈ placements ((Text.words phrase).map Text.lower) parameters,
      (do return LinePattern.mk (joinParts (← placementParts
        (parameterPart catalog (captureNames parameters)) (Text.words phrase) placement)) :
          Except Failure LinePattern) =
        .ok ⟨joinParts ((segmentsOf (Text.words phrase) placement).map (Segment.partBy value))⟩ := by
    intro placement hmem
    have hp := mem_placements_iff.mp hmem
    rw [placementParts_eq (fun entry hentry => hpart entry.1 (hp.mem_parameters hentry)) (Text.words phrase)]
    rfl
  rw [phrasePatterns, mapM_eq_ok hpattern]
  rfl

/-- If the patterns of a phrase can be made, then **every parameter has its part**, unless no placement needs it. -/
theorem exists_part_of_phrasePatterns {patterns : List LinePattern}
    (h : phrasePatterns catalog phrase parameters = .ok patterns) {placement : Placement}
    (hplacement : IsPlacement ((Text.words phrase).map Text.lower) parameters placement) {p : Parameter}
    (hp : p ∈ parameters) : ∃ x, parameterPart catalog (captureNames parameters) p = .ok x := by
  obtain ⟨made, hmade, -⟩ := exists_of_bind_eq_ok h
  obtain ⟨pattern, -, hpattern⟩ := exists_mem_of_mapM hmade (mem_placements_iff.mpr hplacement)
  obtain ⟨parts, hparts, -⟩ := exists_of_bind_eq_ok hpattern
  exact exists_part_of_placementParts hparts (hplacement.value_mem_segmentsOf (List.length_map _) hp)

/-- **The patterns of a phrase**: with regular parameters there is one for each placement, in the order of
the placements. Nothing fails, and none of them is dropped as a repetition. -/
theorem phrasePatterns_eq (h : RegularParameters parameters) :
    phrasePatterns Catalog.standard phrase parameters =
      .ok ((placements ((Text.words phrase).map Text.lower) parameters).map
        (placementPattern (Text.words phrase))) := by
  have hnodup : (((placements ((Text.words phrase).map Text.lower) parameters).map
      (placementPattern (Text.words phrase))).map LinePattern.source).Nodup := by
    rw [List.map_map]
    refine (placements_nodup _ _).map_on fun a ha b hb heq => ?_
    exact source_placementPattern_inj h (mem_placements_iff.mp ha) (mem_placements_iff.mp hb) heq
  rw [phrasePatterns_of_parts (fun p hp => parameterPart_eq h hp) phrase, Segment.partBy_part]
  exact congrArg Except.ok (foldl_unseen_eq hnodup)

/-! ### Patterns that can be used -/

/-- Parts of values that **capture them by name**: each has one capture, under an identifier, and all that is
written in it stands for itself. -/
structure CapturesByName (parameters : List Parameter) (value : Parameter → PhrasePart)
    (name : Parameter → Text) : Prop where
  captures : ∀ p ∈ parameters, (value p).pattern.captureNames = [name p]
  plain : ∀ p ∈ parameters, (value p).pattern.isPlain = true
  identifier : ∀ p ∈ parameters, isIdentifier (name p) = true

namespace CapturesByName

variable {value : Parameter → PhrasePart} {name : Parameter → Text} {placement : Placement}

/-- The captures of segments are **the names** of their parameters. -/
theorem captureNames_segments (h : CapturesByName parameters value name) {segments : List Segment}
    (hsegments : ∀ segment ∈ segments, segment.MadeOf parameters) :
    (segments.map (Segment.partBy value)).flatMap (·.pattern.captureNames) =
      (segments.filterMap Segment.parameter?).map name := by
  induction segments with
  | nil => rfl
  | cons segment rest ih =>
      obtain ⟨hsegment, hrest⟩ := List.forall_mem_cons.mp hsegments
      rw [List.map_cons, List.flatMap_cons, ih hrest]
      cases segment with
      | word w => rfl
      | value p =>
          show (value p).pattern.captureNames ++ _ = name p :: _
          rw [h.captures p hsegment]
          rfl

/-- The captures of the pattern of a placement are **the names of the parameters**, once each. -/
theorem captureNames_placement (h : CapturesByName parameters value name) (hnodup : parameters.Nodup)
    (hp : IsPlacement ((Text.words phrase).map Text.lower) parameters placement) :
    (joinParts ((segmentsOf (Text.words phrase) placement).map
      (Segment.partBy value))).captureNames.Perm (parameters.map name) := by
  have hlen : ((Text.words phrase).map Text.lower).length = (Text.words phrase).length :=
    List.length_map _
  rw [collect_joinParts Pattern.collects_captureNames,
    h.captureNames_segments (hp.madeOf_segmentsOf hlen fun _ => Text.mem_words)]
  exact (hp.parameters_segmentsOf hnodup hlen).map _

/-- **The pattern of a placement can be used** exactly if the names are different: they are the names of its
captures. -/
theorem isUsable_iff (h : CapturesByName parameters value name) (hnodup : parameters.Nodup)
    (hp : IsPlacement ((Text.words phrase).map Text.lower) parameters placement) :
    (joinParts ((segmentsOf (Text.words phrase) placement).map (Segment.partBy value))).isUsable = true ↔
      (parameters.map name).Nodup := by
  have hlen : ((Text.words phrase).map Text.lower).length = (Text.words phrase).length :=
    List.length_map _
  have hmade := hp.madeOf_segmentsOf hlen fun _ => Text.mem_words
  have hnames := h.captureNames_placement hnodup hp
  have hidentifiers : (joinParts ((segmentsOf (Text.words phrase) placement).map
      (Segment.partBy value))).captureNames.all isIdentifier = true := by
    rw [List.all_eq_true]
    intro text htext
    obtain ⟨p, hmem, rfl⟩ := List.mem_map.mp (hnames.mem_iff.mp htext)
    exact h.identifier p hmem
  have hplain : (joinParts ((segmentsOf (Text.words phrase) placement).map
      (Segment.partBy value))).isPlain = true := by
    rw [isPlain_joinParts, List.all_map, List.all_eq_true]
    intro segment hsegment
    cases segment with
    | word w => rfl
    | value p => exact h.plain p (hmade _ hsegment)
  rw [Pattern.isUsable, hidentifiers, hplain, Bool.true_and, Bool.and_true, decide_eq_true_eq,
    hnames.nodup_iff]

end CapturesByName

/-- Regular parameters are captured **under their own names**. -/
theorem RegularParameters.capturesByName (h : RegularParameters parameters) :
    CapturesByName parameters (fun p => (Segment.value p).part) Parameter.name :=
  ⟨fun _ hp => h.captureNames_fragment hp, fun _ hp => h.isPlain_fragment hp, h.identifier⟩

/-- With regular parameters **the pattern of a placement can be used**. -/
theorem isUsable_placementPattern (h : RegularParameters parameters) {placement : Placement}
    (hp : IsPlacement ((Text.words phrase).map Text.lower) parameters placement) :
    (placementPattern (Text.words phrase) placement).inner.isUsable = true := by
  rw [placementPattern, ← Segment.partBy_part]
  exact (h.capturesByName.isUsable_iff h.nodup hp).mpr h.different

end

/-- **The patterns of a definition** with regular parameters that has not made them yet: there is one for each
placement, and they are kept. -/
theorem Definition.compile_of_regular {d : Definition} (h : RegularParameters d.inlineParameters) :
    ({ d with patterns := none } : Definition).compile Catalog.standard =
      .ok ((placements ((Text.words d.phrase).map Text.lower) d.inlineParameters).map
          (placementPattern (Text.words d.phrase)),
        { d with patterns := some ((placements ((Text.words d.phrase).map Text.lower)
          d.inlineParameters).map (placementPattern (Text.words d.phrase))) }) := by
  have hpatterns : phrasePatterns Catalog.standard ({ d with patterns := none } : Definition).phrase
      ({ d with patterns := none } : Definition).inlineParameters = _ := phrasePatterns_eq h
  have husable : ((placements ((Text.words d.phrase).map Text.lower) d.inlineParameters).map
      (placementPattern (Text.words d.phrase))).all (fun p => p.inner.isUsable) = true := by
    rw [List.all_map, List.all_eq_true]
    exact fun placement hplacement => isUsable_placementPattern h (mem_placements_iff.mp hplacement)
  rw [compile]
  simp only [hpatterns]
  exact if_pos husable

end PlainSpec
