import PlainSpec.Proofs.CapturedValues
import PlainSpec.Proofs.KeptPatterns

/-!
# Patterns that are made

A definition makes its patterns with a catalog, one for each placement of its parameters. This module says, for any
catalog, how such a pattern is put together, and what follows for a line that it matches: the capture of a parameter
is the one in the part of that parameter, which was made by the kind of values that the catalog found for its type.

## Main results

* `Definition.Makes.of_find?`: patterns that are made with a catalog are made with every one that finds the same kinds.
* `Definition.Makes.exists_placedBy`: how the patterns are put together.
* `Definition.PlacedBy.exists_kind_of_captured`: what is captured for a parameter.
* `Definition.lookup_arguments`: which argument a parameter has.
-/

namespace PlainSpec

/-! ### Parts of parameters -/

/-- A parameter **has its part** if the catalog finds a kind of values for its type, and this kind has made the
part. -/
theorem parameterPart_eq_ok_iff {catalog : Catalog} {names : Record} {p : Parameter} {part : PhrasePart} :
    parameterPart catalog names p = .ok part ↔
      ∃ kind, catalog.find? (unwrapType p.type).1 = some kind ∧
        part = ⟨kind.pattern (unwrapType p.type).1 (unwrapType p.type).2 ((names.lookup p.name).getD []),
          p.hasDefault⟩ := by
  simp only [parameterPart, Catalog.pattern]
  rcases catalog.find? (unwrapType p.type).1 with _ | kind <;> simp [eq_comm]

/-- The name of a capture has **no closing bracket**. -/
theorem bracket_notMem_captureNameOf (parameters : List Parameter) (p : Parameter) :
    '>' ∉ captureNameOf parameters p := by
  rw [captureNameOf]
  cases hlookup : (captureNames parameters).lookup p.name with
  | none => exact List.not_mem_nil
  | some name =>
      rw [captureNames, Entries.lookup_ofPairs] at hlookup
      obtain ⟨before, after, hsplit, -⟩ := List.lookup_eq_some_iff.mp hlookup
      have hmem : (p.name, name) ∈ (parameters.zipIdx.map fun entry =>
          (entry.1.name, chosenName entry.2 entry.1)).reverse :=
        hsplit ▸ List.mem_append_right _ List.mem_cons_self
      obtain ⟨entry, -, heq⟩ := List.mem_map.mp (List.mem_reverse.mp hmem)
      rw [← (Prod.mk.inj heq).2]
      exact not_mem_of_isIdentifier (isIdentifier_chosenName _ _)

/-! ### Captures that take part -/

namespace Pattern

/-- The captures that **take part** in every way of matching: those that stand under no alternative and in nothing
optional. -/
def certain : Pattern → List Text
  | nothing | literal _ | verbatim _ | chars _ _ | either _ _ | optional _ => []
  | seq first second => first.certain ++ second.certain
  | group inner => inner.certain
  | capture name inner => name :: inner.certain

/-- A certain capture **has taken part**, whichever way a pattern matches. -/
theorem exists_capture_of_certain {pattern : Pattern} {t name : Text} {way : Way} (hway : way ∈ pattern.ways t)
    (hname : name ∈ pattern.certain) : ∃ c ∈ way.captures, c.name = name := by
  induction pattern generalizing t way with
  | nothing | literal _ | verbatim _ | chars _ _ | either _ _ | optional _ => exact absurd hname List.not_mem_nil
  | seq first second ihf ihs =>
      obtain ⟨way, hfirst, hway⟩ := List.mem_flatMap.mp hway
      obtain ⟨next, hsecond, rfl⟩ := List.mem_map.mp hway
      rcases List.mem_append.mp hname with hname | hname
      · obtain ⟨c, hc, heq⟩ := ihf hfirst hname
        exact ⟨c, List.mem_append_left _ hc, heq⟩
      · obtain ⟨c, hc, heq⟩ := ihs hsecond hname
        exact ⟨c, List.mem_append_right _ hc, heq⟩
  | group inner ih => exact ih hway hname
  | capture own inner ih =>
      obtain ⟨way, hinner, rfl⟩ := List.mem_map.mp hway
      rcases List.mem_cons.mp hname with rfl | hname
      · exact ⟨_, List.mem_cons_self, rfl⟩
      · obtain ⟨c, hc, heq⟩ := ih hinner hname
        exact ⟨c, List.mem_cons_of_mem _ hc, heq⟩

/-- The certain captures of a sequence are **those of its patterns**. -/
theorem certain_sequence (ps : List Pattern) : (sequence ps).certain = ps.flatMap certain := by
  induction ps with
  | nil => rfl
  | cons p rest ih =>
      cases rest with
      | nil => simp [sequence]
      | cons q rest => rw [sequence_cons_cons, certain, ih]; rfl

end Pattern

/-- The pattern of a value captures it **for certain**. -/
theorem InlineKind.mem_certain_pattern {kind : InlineKind} {type : Option ParamType} {nullable : Bool} {name : Text}
    (h : '>' ∉ name) : name ∈ (kind.pattern type nullable name).certain := by
  obtain ⟨inner, -, heq | ⟨after, -, heq⟩⟩ := pattern_eq kind type nullable h <;> rw [heq]
  · exact List.mem_cons_self
  · exact List.mem_append_left _ List.mem_cons_self

/-- Joined parts capture for certain what **a part that is not optional** does. -/
theorem certain_subset_joinParts {parts : List PhrasePart} {part : PhrasePart} (hpart : part ∈ parts)
    (hrequired : part.optional = false) : part.pattern.certain ⊆ (joinParts parts).certain := by
  have hfollowing : ∀ afterOptional, part.pattern ∈ followingPatterns afterOptional part := by
    intro afterOptional
    simp [followingPatterns, hrequired]
  have hfollowers : ∀ afterOptional rest, part ∈ rest → part.pattern ∈ followers afterOptional rest := by
    intro afterOptional rest
    induction rest generalizing afterOptional with
    | nil => exact fun h => absurd h List.not_mem_nil
    | cons other rest ih =>
        intro h
        rw [followers, List.mem_append]
        rcases List.mem_cons.mp h with rfl | h
        · exact .inl (hfollowing afterOptional)
        · exact .inr (ih false h)
  cases parts with
  | nil => exact absurd hpart List.not_mem_nil
  | cons first rest =>
      have hmem : part.pattern ∈ first.leading :: followers first.optional rest := by
        rcases List.mem_cons.mp hpart with rfl | hpart
        · simp [PhrasePart.leading, hrequired]
        · exact List.mem_cons_of_mem _ (hfollowers _ _ hpart)
      rw [joinParts_cons, Pattern.certain_sequence]
      exact fun name hname => List.mem_flatMap.mpr ⟨_, hmem, hname⟩

/-- Where several lists do not repeat anything together, an element **tells the list** that it is from. -/
theorem eq_of_mem_of_nodup_flatMap {α β : Type} {l : List α} {f : α → List β} (h : (l.flatMap f).Nodup)
    {a b : α} {x : β} (ha : a ∈ l) (hb : b ∈ l) (hxa : x ∈ f a) (hxb : x ∈ f b) : a = b := by
  have : Std.Symm (Function.onFun List.Disjoint f) := ⟨fun _ _ hdisjoint _ hb ha => hdisjoint ha hb⟩
  by_contra hne
  exact (List.nodup_flatMap.mp h).2.forall ha hb hne hxa hxb

namespace Definition

variable {catalog catalog' : Catalog} {d : Definition} {patterns : List LinePattern} {pattern : LinePattern}
  {value : Parameter → PhrasePart} {placement : Placement} {p q : Parameter}

/-- Patterns that are made with a catalog **are made with another one** that finds the same kinds of values for
the types of the parameters. -/
theorem Makes.of_find? (h : d.Makes catalog patterns)
    (hfind : ∀ p ∈ d.inlineParameters, ∀ kind, catalog.find? (unwrapType p.type).1 = some kind →
      catalog'.find? (unwrapType p.type).1 = some kind) : d.Makes catalog' patterns := by
  refine ⟨?_, h.usable⟩
  rw [← h.phrase]
  rcases hplacements : placements ((Text.words d.phrase).map Text.lower) d.inlineParameters with _ | ⟨placement, _⟩
  · simp only [phrasePatterns, hplacements]
    rfl
  · have hplacement := mem_placements_iff.mp (hplacements ▸ List.mem_cons_self)
    have hpart := fun p hp => exists_part_of_phrasePatterns h.phrase hplacement (p := p) hp
    have : Nonempty PhrasePart := ⟨⟨.nothing, false⟩⟩
    choose! value hvalue using hpart
    rw [phrasePatterns_of_parts hvalue, phrasePatterns_of_parts fun p hp => ?_]
    obtain ⟨kind, hkind, hmade⟩ := parameterPart_eq_ok_iff.mp (hvalue p hp)
    exact parameterPart_eq_ok_iff.mpr ⟨kind, hfind p hp kind hkind, hmade⟩

/-! ### How patterns are put together -/

/-- A pattern is **placed**: it joins the parts of a placement, in which the part of each parameter was made by the
kind of values that the catalog finds for its type, and it can be used. -/
structure PlacedBy (catalog : Catalog) (d : Definition) (value : Parameter → PhrasePart) (placement : Placement)
    (pattern : LinePattern) : Prop where
  placed : IsPlacement ((Text.words d.phrase).map Text.lower) d.inlineParameters placement
  parts : ∀ p ∈ d.inlineParameters, ∃ kind, catalog.find? (unwrapType p.type).1 = some kind ∧
    value p = ⟨kind.pattern (unwrapType p.type).1 (unwrapType p.type).2 (captureNameOf d.inlineParameters p),
      p.hasDefault⟩
  joined : pattern.inner = joinParts ((segmentsOf (Text.words d.phrase) placement).map (Segment.partBy value))
  usable : pattern.inner.isUsable = true

/-- Patterns that are made **are placed**. -/
theorem Makes.exists_placedBy (h : d.Makes catalog patterns) (hpattern : pattern ∈ patterns) :
    ∃ value placement, d.PlacedBy catalog value placement pattern := by
  have : Nonempty PhrasePart := ⟨⟨.nothing, false⟩⟩
  have hpart : ∀ placement ∈ placements ((Text.words d.phrase).map Text.lower) d.inlineParameters,
      ∀ p ∈ d.inlineParameters, ∃ x, parameterPart catalog (PlainSpec.captureNames d.inlineParameters) p = .ok x :=
    fun placement hplacement p hp =>
      exists_part_of_phrasePatterns h.phrase (mem_placements_iff.mp hplacement) hp
  rcases hplacements : placements ((Text.words d.phrase).map Text.lower) d.inlineParameters with _ | ⟨first, _⟩
  · have hnone := h.phrase
    simp only [phrasePatterns, hplacements] at hnone
    obtain rfl := Except.ok.inj hnone
    exact absurd hpattern List.not_mem_nil
  · have hvalue := hpart first (hplacements ▸ List.mem_cons_self)
    choose! value hvalue using hvalue
    have hmade := h.phrase
    rw [phrasePatterns_of_parts hvalue] at hmade
    rw [← Except.ok.inj hmade] at hpattern
    obtain ⟨placement, hplacement, rfl⟩ := List.mem_map.mp
      (((mem_foldl_unseen LinePattern.source _ [] pattern).2 hpattern).resolve_left List.not_mem_nil)
    exact ⟨value, placement, mem_placements_iff.mp hplacement,
      fun p hp => parameterPart_eq_ok_iff.mp (hvalue p hp), rfl, h.usable _ (Except.ok.inj hmade ▸ hpattern)⟩

namespace PlacedBy

/-- **Every parameter** has its part in the pattern. -/
theorem value_mem (h : d.PlacedBy catalog value placement pattern) (hp : p ∈ d.inlineParameters) :
    value p ∈ (segmentsOf (Text.words d.phrase) placement).map (Segment.partBy value) :=
  List.mem_map.mpr ⟨.value p, h.placed.value_mem_segmentsOf (List.length_map _) hp, rfl⟩

/-- The part of a parameter **captures it** and nothing else. -/
theorem captureNames_value (h : d.PlacedBy catalog value placement pattern) (hp : p ∈ d.inlineParameters) :
    (value p).pattern.captureNames = [captureNameOf d.inlineParameters p] := by
  obtain ⟨kind, -, hvalue⟩ := h.parts p hp
  rw [hvalue]
  exact InlineKind.captureNames_pattern (bracket_notMem_captureNameOf _ _)

/-- The name of a capture **tells its parameter**. -/
theorem eq_of_captureName (h : d.PlacedBy catalog value placement pattern) (hp : p ∈ d.inlineParameters)
    (hq : q ∈ d.inlineParameters)
    (hname : captureNameOf d.inlineParameters p = captureNameOf d.inlineParameters q) : p = q := by
  have husable := h.usable
  rw [Pattern.isUsable, Bool.and_eq_true, Bool.and_eq_true, decide_eq_true_eq, h.joined,
    collect_joinParts Pattern.collects_captureNames, List.flatMap_map] at husable
  -- two parts that capture under one name would repeat it
  refine Segment.value.inj (eq_of_mem_of_nodup_flatMap husable.1.2
    (h.placed.value_mem_segmentsOf (List.length_map _) hp) (h.placed.value_mem_segmentsOf (List.length_map _) hq)
    (x := captureNameOf d.inlineParameters p) ?_ ?_)
  · exact h.captureNames_value hp ▸ List.mem_cons_self
  · rw [hname]
    exact h.captureNames_value hq ▸ List.mem_cons_self

/-- The name of a parameter **tells it**. -/
theorem eq_of_name (h : d.PlacedBy catalog value placement pattern) (hp : p ∈ d.inlineParameters)
    (hq : q ∈ d.inlineParameters) (hname : p.name = q.name) : p = q :=
  h.eq_of_captureName hp hq (by rw [captureNameOf, captureNameOf, hname])

/-- **What is captured for a parameter** is captured in its own part, by the pattern of the kind of values that the
catalog finds for its type. -/
theorem exists_kind_of_captured (h : d.PlacedBy catalog value placement pattern) (hp : p ∈ d.inlineParameters)
    {body : Text} {way : Way} {t : Text} (hmatch : pattern.match? body = some way)
    (hcaptured : way.captured? (captureNameOf d.inlineParameters p) = some t) :
    ∃ kind, catalog.find? (unwrapType p.type).1 = some kind ∧
      ∃ inner, (captureNameOf d.inlineParameters p, inner) ∈
        (kind.pattern (unwrapType p.type).1 (unwrapType p.type).2 (captureNameOf d.inlineParameters p)).captured ∧
          inner.Matches t := by
  obtain ⟨c, hfind, rfl⟩ := Option.map_eq_some_iff.mp hcaptured
  have hname : c.name = captureNameOf d.inlineParameters p := by simpa using List.find?_some hfind
  obtain ⟨inner, hinner, hmatches⟩ := LinePattern.exists_captured hmatch (List.mem_of_find?_eq_some hfind)
  rw [hname, h.joined, captured_joinParts, List.flatMap_map] at hinner
  obtain ⟨segment, hsegment, hinner⟩ := List.mem_flatMap.mp hinner
  cases segment with
  | word w => exact absurd hinner List.not_mem_nil
  | value q =>
      have hq : q ∈ d.inlineParameters :=
        h.placed.madeOf_segmentsOf (List.length_map _) (fun _ => Text.mem_words) _ hsegment
      have hown : captureNameOf d.inlineParameters p ∈ (value q).pattern.captureNames := by
        rw [← Pattern.map_fst_captured]
        exact List.mem_map_of_mem hinner
      rw [h.captureNames_value hq, List.mem_singleton] at hown
      obtain rfl := h.eq_of_captureName hp hq hown
      obtain ⟨kind, hkind, hvalue⟩ := h.parts p hp
      refine ⟨kind, hkind, inner, ?_, hmatches⟩
      have hpart : Segment.partBy value (.value p) = value p := rfl
      rwa [hpart, hvalue] at hinner

/-- **A parameter without default is captured**, whichever way the pattern matches. -/
theorem isSome_captured? (h : d.PlacedBy catalog value placement pattern) (hp : p ∈ d.inlineParameters)
    (hrequired : p.hasDefault = false) {body : Text} {way : Way} (hmatch : pattern.match? body = some way) :
    (way.captured? (captureNameOf d.inlineParameters p)).isSome = true := by
  obtain ⟨kind, -, hvalue⟩ := h.parts p hp
  have hpart : captureNameOf d.inlineParameters p ∈ (value p).pattern.certain := by
    rw [hvalue]
    exact InlineKind.mem_certain_pattern (bracket_notMem_captureNameOf _ _)
  have hcertain : captureNameOf d.inlineParameters p ∈ pattern.inner.certain := by
    rw [h.joined]
    exact certain_subset_joinParts (h.value_mem hp) (by rw [hvalue]; exact hrequired) hpart
  have hway := List.mem_of_mem_filter (List.mem_of_mem_head? (Option.mem_def.mpr hmatch))
  have hline : captureNameOf d.inlineParameters p ∈
      (Pattern.sequence [.chars .blank .many, pattern.inner, .chars .blank .many]).certain := by
    rw [Pattern.certain_sequence]
    exact List.mem_flatMap.mpr ⟨_, by simp, hcertain⟩
  obtain ⟨c, hc, hname⟩ := Pattern.exists_capture_of_certain hway hline
  rw [Way.captured?, Option.isSome_map, List.find?_isSome]
  exact ⟨c, hc, beq_iff_eq.mpr hname⟩

end PlacedBy

/-! ### Arguments -/

/-- An argument stands **under the name** of its parameter. -/
theorem name_of_argument {way : Way} {argument : Text × Value}
    (h : d.argument catalog way p = .ok (some argument)) : argument.1 = p.name := by
  simp only [Definition.argument] at h
  split at h
  · exact absurd h (by simp)
  · split at h
    · exact congrArg Prod.fst (Option.some.inj (Except.ok.inj h)).symm
    · exact absurd h (by simp)

/-- **The argument of a parameter**, if the names of the parameters tell them apart: what is made from its capture,
or none if it is left out. -/
theorem lookup_arguments {way : Way} {arguments : Entries Value}
    (hnames : ∀ p ∈ d.inlineParameters, ∀ q ∈ d.inlineParameters, p.name = q.name → p = q)
    (h : d.arguments catalog way = .ok arguments) (hp : p ∈ d.inlineParameters) :
    d.argument catalog way p = .ok ((arguments.lookup p.name).map (p.name, ·)) := by
  rw [Definition.arguments] at h
  cases hfound : d.inlineParameters.mapM (d.argument catalog way) with
  | error failure => rw [hfound] at h; exact absurd h (by simp [Except.map])
  | ok found =>
      rw [hfound] at h
      obtain rfl := Except.ok.inj h
      obtain ⟨x, hx, hargument⟩ := exists_mem_of_mapM hfound hp
      -- a pair under the parameter's name is its own argument
      have hown : ∀ value, (p.name, value) ∈ found.filterMap id → x = some (p.name, value) := by
        intro value hmem
        obtain ⟨_, hpair, rfl⟩ := List.mem_filterMap.mp hmem
        obtain ⟨q, hq, hother⟩ := exists_of_mem_mapM hfound hpair
        obtain rfl := hnames p hp q hq (name_of_argument hother)
        exact Except.ok.inj (hargument.symm.trans hother)
      rw [hargument]
      rcases x with _ | ⟨name, value⟩
      · have hnone : (Entries.ofPairs (found.filterMap id)).lookup p.name = none := by
          rw [Entries.lookup_ofPairs, List.lookup_eq_none_iff]
          rintro ⟨name, value⟩ hmem
          by_contra hname
          obtain rfl : p.name = name := by simpa using hname
          exact absurd (hown value (List.mem_reverse.mp hmem)) (by simp)
        rw [hnone]
        rfl
      · obtain rfl : name = p.name := name_of_argument hargument
        rw [Entries.lookup_ofPairs_of_mem (List.mem_filterMap.mpr ⟨_, hx, rfl⟩) fun other hother => ?_]
        · rfl
        · exact (Prod.mk.inj (Option.some.inj (hown other hother))).2.symm

/-- A parameter **has no argument** exactly if it is not captured and has a default. -/
theorem argument_eq_none_iff {way : Way} : d.argument catalog way p = .ok none ↔
    way.captured? (captureNameOf d.inlineParameters p) = none ∧ p.hasDefault = true := by
  rw [captureNameOf]
  constructor
  · intro h
    simp only [Definition.argument] at h
    split at h
    · next hleft => simpa [Definition.captureNames] using hleft
    · split at h <;> exact absurd h (by simp)
  · rintro ⟨hnone, hdefault⟩
    simp [Definition.argument, Definition.captureNames, hnone, hdefault]

/-- The argument of a parameter that is **captured** is its text, converted. -/
theorem convert_of_captured {way : Way} {argument : Option Value} {t : Text}
    (h : d.argument catalog way p = .ok (argument.map (p.name, ·)))
    (hcaptured : way.captured? (captureNameOf d.inlineParameters p) = some t) :
    ∃ value, argument = some value ∧ catalog.convert p.type (some t) = .ok value := by
  rw [captureNameOf] at hcaptured
  simp only [Definition.argument, Definition.captureNames, hcaptured, Option.isNone_some, Bool.false_and,
    Bool.false_eq_true, if_false] at h
  split at h
  · next value hvalue =>
    cases argument with
    | none => exact absurd h (by simp)
    | some other =>
        obtain rfl := (Prod.mk.inj (Option.some.inj (Except.ok.inj h))).2
        exact ⟨value, rfl, hvalue⟩
  · exact absurd h (by simp)

end Definition

end PlainSpec
