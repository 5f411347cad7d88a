import PlainSpec.Binding.Basic
import PlainSpec.Proofs.CaptureNames
import PlainSpec.Proofs.LetterVariants
import PlainSpec.Proofs.MatchedNumbers
import PlainSpec.Proofs.Outcomes

/-!
# Values of captures

What a capture takes is described by the pattern inside it. The customary kinds of values fail on such a text
only because it has no value, which lets matching go on: an integer with too many digits, a day that the month
does not have. Decimal numbers would fail otherwise, but what their pattern matches is one.

## Main results

* `Pattern.exists_captured`: what a way of matching has captured.
* `InlineKind.read_error`: how reading a value fails.
* `Definition.exists_read`: matching a definition does not fail.
-/

namespace PlainSpec

/-! ### Captures and their patterns -/

namespace Pattern

/-- The **captures** of a pattern, from left to right, each with the pattern inside it. -/
def captured : Pattern → List (Text × Pattern)
  | nothing | literal _ | verbatim _ | chars _ _ => []
  | seq first second | either first second => first.captured ++ second.captured
  | group inner | optional inner => inner.captured
  | capture name inner => (name, inner) :: inner.captured

/-- The captures have the **names** of the pattern's captures. -/
theorem map_fst_captured (p : Pattern) : p.captured.map Prod.fst = p.captureNames := by
  induction p with
  | nothing | literal word | verbatim word | chars kind quantity => rfl
  | seq first second ihf ihs | either first second ihf ihs =>
      rw [captured, captureNames, List.map_append, ihf, ihs]
  | group inner ih | optional inner ih => exact ih
  | capture name inner ih => rw [captured, captureNames, List.map_cons, ih]

/-- A sequence has the captures **of its patterns**. -/
theorem captured_sequence (ps : List Pattern) : (sequence ps).captured = ps.flatMap captured := by
  induction ps with
  | nil => rfl
  | cons p rest ih =>
      cases rest with
      | nil => simp [sequence]
      | cons q rest => rw [sequence_cons_cons, captured, ih]; rfl

/-- **What a way of matching has captured**: each capture is one of the pattern's, and took a text that the
pattern inside describes. -/
theorem exists_captured {p : Pattern} {t : Text} {way : Way} {c : Capture} (hway : way ∈ p.ways t)
    (hc : c ∈ way.captures) : ∃ inner, (c.name, inner) ∈ p.captured ∧ inner.Matches c.text := by
  induction p generalizing t way with
  | nothing =>
      obtain rfl := List.mem_singleton.mp hway
      exact absurd hc List.not_mem_nil
  | literal word | verbatim word | chars kind quantity =>
      obtain ⟨rest, -, rfl⟩ := List.mem_map.mp hway
      exact absurd hc List.not_mem_nil
  | seq first second ihf ihs =>
      obtain ⟨way, hfirst, hway⟩ := List.mem_flatMap.mp hway
      obtain ⟨next, hsecond, rfl⟩ := List.mem_map.mp hway
      rcases List.mem_append.mp hc with hc | hc
      · obtain ⟨inner, hmem, hmatches⟩ := ihf hfirst hc
        exact ⟨inner, List.mem_append_left _ hmem, hmatches⟩
      · obtain ⟨inner, hmem, hmatches⟩ := ihs hsecond hc
        exact ⟨inner, List.mem_append_right _ hmem, hmatches⟩
  | either first second ihf ihs =>
      rcases List.mem_append.mp hway with hway | hway
      · obtain ⟨inner, hmem, htaken⟩ := ihf hway hc
        exact ⟨inner, List.mem_append_left _ hmem, htaken⟩
      · obtain ⟨inner, hmem, htaken⟩ := ihs hway hc
        exact ⟨inner, List.mem_append_right _ hmem, htaken⟩
  | group inner ih => exact ih hway hc
  | optional inner ih =>
      rcases List.mem_append.mp hway with hway | hway
      · exact ih hway hc
      · obtain rfl := List.mem_singleton.mp hway
        exact absurd hc List.not_mem_nil
  | capture name inner ih =>
      obtain ⟨way, hinner, rfl⟩ := List.mem_map.mp hway
      rcases List.mem_cons.mp hc with rfl | hc
      · obtain ⟨u, rfl, hmatches⟩ := mem_ways_rest_iff.mp ⟨way, hinner, rfl⟩
        have htext : (⟨name, u ++ way.rest, way.rest⟩ : Capture).text = u := by
          simp [Capture.text]
        refine ⟨inner, List.mem_cons_self, ?_⟩
        rwa [htext]
      · obtain ⟨other, hmem, htaken⟩ := ih hinner hc
        exact ⟨other, List.mem_cons_of_mem _ hmem, htaken⟩

end Pattern

/-- A line that matches has captured **what the pattern inside** captures. -/
theorem LinePattern.exists_captured {p : LinePattern} {t : Text} {way : Way} {c : Capture}
    (hway : p.match? t = some way) (hc : c ∈ way.captures) :
    ∃ inner, (c.name, inner) ∈ p.inner.captured ∧ inner.Matches c.text := by
  have hmem := List.mem_of_mem_filter (List.mem_of_mem_head? (Option.mem_def.mpr hway))
  obtain ⟨inner, hinner, htaken⟩ := Pattern.exists_captured hmem hc
  rw [Pattern.captured_sequence] at hinner
  exact ⟨inner, by simpa [Pattern.captured] using hinner, htaken⟩

/-- Parts that follow have **their own** captures. -/
theorem captured_followers (afterOptional : Bool) (parts : List PhrasePart) :
    (followers afterOptional parts).flatMap Pattern.captured =
      parts.flatMap (·.pattern.captured) := by
  induction parts generalizing afterOptional with
  | nil => rfl
  | cons part rest ih =>
      rw [followers, List.flatMap_append, List.flatMap_cons, ih, followingPatterns]
      split <;> simp [Pattern.captured]

/-- Joined parts have the captures **of the parts**. -/
theorem captured_joinParts (parts : List PhrasePart) :
    (joinParts parts).captured = parts.flatMap (·.pattern.captured) := by
  cases parts with
  | nil => rfl
  | cons part rest =>
      rw [joinParts_cons, Pattern.captured_sequence, List.flatMap_cons, List.flatMap_cons,
        captured_followers, PhrasePart.leading]
      split <;> rfl

/-! ### Captures of served parameters -/

namespace ServedParameters

variable {parameters : List Parameter} {p : Parameter} {phrase : Text} {placement : Placement}

/-- **What is captured for a parameter** is captured by the pattern of the parameter's values, if the chosen
names are different. -/
theorem mem_captured_valuePart (h : ServedParameters parameters)
    (hnames : (chosenNames parameters).Nodup) (hp : p ∈ parameters) {inner : Pattern}
    (hplacement : IsPlacement ((Text.words phrase).map Text.lower) parameters placement)
    (hinner : (captureNameOf parameters p, inner) ∈
      (namedPattern parameters (Text.words phrase) placement).inner.captured) :
    (captureNameOf parameters p, inner) ∈ (valuePart (captureNames parameters) p).pattern.captured := by
  have hmade := hplacement.madeOf_segmentsOf (List.length_map _) fun _ => Text.mem_words
  rw [namedPattern, captured_joinParts, List.flatMap_map] at hinner
  obtain ⟨segment, hsegment, hcaptured⟩ := List.mem_flatMap.mp hinner
  cases segment with
  | word w => exact absurd hcaptured List.not_mem_nil
  | value q =>
      have hq : q ∈ parameters := hmade _ hsegment
      have hname : captureNameOf parameters p ∈ (valuePart (captureNames parameters) q).pattern.captureNames := by
        rw [← Pattern.map_fst_captured]
        exact List.mem_map_of_mem hcaptured
      rw [h.capturesByName.captures q hq, List.mem_singleton] at hname
      rw [← map_captureNameOf h.different] at hnames
      obtain rfl := List.inj_on_of_nodup_map hnames hp hq hname
      exact hcaptured

/-- The values of a **decimal number** are described by the pattern for numbers, or are nothing. -/
theorem matches_real_or_null (h : ServedParameters parameters) (hp : p ∈ parameters)
    (htype : (unwrapType p.type).1 = some .decimal) {name : Text} {inner : Pattern} {t : Text}
    (hinner : (name, inner) ∈ (valuePart (captureNames parameters) p).pattern.captured) (ht : inner.Matches t) :
    InlineKind.realPattern.Matches t ∨ (unwrapType p.type).2 = true ∧ Text.lower t = nullWord := by
  obtain ⟨kind, hkind, hhandles, hpattern⟩ := h.exists_pattern_eq hp
  have hreal : kind = .real := by
    rw [htype] at hhandles
    simp only [Catalog.standard, List.mem_cons, List.not_mem_nil, or_false] at hkind
    rcases hkind with rfl | rfl | rfl | rfl | rfl | rfl <;> first | rfl | exact absurd hhandles (by decide)
  have hbracket := not_mem_of_isIdentifier (isIdentifier_captureNameOf h.different hp)
  simp only [hpattern, hreal, InlineKind.pattern, Pattern.named_eq_capture hbracket] at hinner
  cases hnullable : (unwrapType p.type).2 with
  | false =>
      rw [hnullable] at hinner
      obtain ⟨-, rfl⟩ := Prod.mk.inj (List.mem_singleton.mp hinner)
      exact .inl ht
  | true =>
      rw [hnullable] at hinner
      obtain ⟨-, rfl⟩ := Prod.mk.inj (List.mem_singleton.mp hinner)
      rcases ht with ht | ht
      · exact .inl ht
      · exact .inr ⟨rfl, sameLetters_null_iff.mp ht⟩

end ServedParameters

/-! ### Reading values -/

/-- What the kind of **members** serves is an enumeration. -/
theorem InlineKind.exists_enum_of_handles {type : Option ParamType}
    (h : InlineKind.enumeration.handles type = true) : ∃ e, type = some (.enum e) := by
  cases type with
  | none => exact absurd h Bool.false_ne_true
  | some type => cases type <;> first | exact ⟨_, rfl⟩ | exact absurd h Bool.false_ne_true

/-- **How reading a value fails**: the text has no value, or it was to be a decimal number and is none. -/
theorem InlineKind.read_error {kind : InlineKind} {type : Option ParamType} {t : Text} {fault : ConversionFault}
    (hkind : kind ∈ Catalog.standard) (hhandles : kind.handles type = true)
    (hread : kind.read type t = .error fault) :
    (∃ cause, fault = .value cause) ∨
      fault = .decimal ∧ type = some .decimal ∧ Decimal.read? t = none := by
  simp only [Catalog.standard, List.mem_cons, List.not_mem_nil, or_false] at hkind
  rcases hkind with rfl | rfl | rfl | rfl | rfl | rfl
  · simp only [read, Value.readInt] at hread
    split at hread
    · exact absurd hread (by simp)
    · exact .inl ⟨_, (Except.error.inj hread).symm⟩
    · exact .inl ⟨_, (Except.error.inj hread).symm⟩
  · simp only [read] at hread
    split at hread
    · rw [Value.readDecimal] at hread
      split at hread
      · exact absurd hread (by simp)
      · next hnone => exact .inr ⟨(Except.error.inj hread).symm, rfl, hnone⟩
    · rw [Value.readReal] at hread
      split at hread
      · exact absurd hread (by simp)
      · exact .inl ⟨_, (Except.error.inj hread).symm⟩
  · exact absurd hread (by simp [read])
  · obtain ⟨e, rfl⟩ := exists_enum_of_handles hhandles
    simp only [read, readMember] at hread
    split at hread
    · exact absurd hread (by simp)
    · exact .inl ⟨_, (Except.error.inj hread).symm⟩
  · simp only [read, Value.readDate] at hread
    split at hread
    · exact absurd hread (by simp)
    all_goals exact .inl ⟨_, (Except.error.inj hread).symm⟩
  · exact absurd hread (by simp [read])

/-- **How converting a capture fails** for a type that is served: reading its text fails, which is not the word
for nothing if the type is optional. -/
theorem Catalog.convert_error {type : Option ParamType} {captured : Option Text} {fault : InlineFault}
    (hserved : standard.handles type = true) (h : standard.convert type captured = .error fault) :
    ∃ t, captured = some t ∧ ¬((unwrapType type).2 = true ∧ Text.lower t = nullWord) ∧
      ∃ kind ∈ standard, kind.handles (unwrapType type).1 = true ∧
        ∃ cause, kind.read (unwrapType type).1 t = .error cause ∧ fault = .conversion cause := by
  obtain ⟨kind, hfind⟩ := Option.isSome_iff_exists.mp hserved
  have hmem := List.mem_of_find?_eq_some hfind
  have hhandles := List.find?_some hfind
  have hinner : standard.find? (unwrapType type).1 = some kind := by
    rw [find?, unwrapType_of_handles hmem hhandles]
    exact hfind
  cases captured with
  | none => simp [convert, hinner] at h
  | some t =>
      simp only [convert, hinner] at h
      split at h
      · exact absurd h (by simp)
      · next hnull =>
        refine ⟨t, rfl, by simpa using hnull, kind, hmem, hhandles, ?_⟩
        cases hread : kind.read (unwrapType type).1 t with
        | ok value => rw [hread] at h; exact absurd h (by simp [Except.mapError])
        | error cause =>
            rw [hread] at h
            exact ⟨cause, rfl, (Except.error.inj h).symm⟩

/-! ### Reading the arguments of a definition -/

namespace Definition

variable {d : Definition} {body : Text} {patterns : List LinePattern} {failure : Failure}

/-- **How reading a text fails**: one of the patterns matches, and an argument cannot be made of what it has
captured, although the text has a value. -/
theorem exists_argument_of_read_error (h : d.read Catalog.standard body patterns = .error failure) :
    failure.isValueFault = false ∧ ∃ pattern ∈ patterns, ∃ way, pattern.match? body = some way ∧
      ∃ p ∈ d.inlineParameters, d.argument Catalog.standard way p = .error failure := by
  induction patterns with
  | nil => exact absurd h (by simp [read])
  | cons pattern rest ih =>
      have hlater : d.read Catalog.standard body rest = .error failure →
          failure.isValueFault = false ∧ ∃ other ∈ pattern :: rest, ∃ way, other.match? body = some way ∧
            ∃ p ∈ d.inlineParameters, d.argument Catalog.standard way p = .error failure := by
        intro hrest
        obtain ⟨hvalue, other, hother, hfails⟩ := ih hrest
        exact ⟨hvalue, other, List.mem_cons_of_mem _ hother, hfails⟩
      simp only [read] at h
      split at h
      · exact hlater h
      · next way hmatch =>
        split at h
        · exact absurd h (by simp)
        · next cause hcause =>
          split at h
          · exact hlater h
          · next hvalue =>
            obtain rfl := Except.error.inj h
            cases hfound : d.inlineParameters.mapM (d.argument Catalog.standard way) with
            | ok found => rw [arguments, hfound] at hcause; exact absurd hcause (by simp [Except.map])
            | error other =>
                rw [arguments, hfound] at hcause
                obtain rfl := Except.error.inj hcause
                exact ⟨by simpa using hvalue, pattern, List.mem_cons_self, way, hmatch,
                  exists_error_of_mapM hfound⟩

/-- **Matching a definition does not fail** where the chosen names are different: whatever is captured for a decimal
number is one. -/
theorem exists_read (h : ServedParameters d.inlineParameters) (hnames : (chosenNames d.inlineParameters).Nodup)
    (hpatterns : ∀ pattern ∈ patterns, ∃ placement,
      IsPlacement ((Text.words d.phrase).map Text.lower) d.inlineParameters placement ∧
        pattern = namedPattern d.inlineParameters (Text.words d.phrase) placement)
    (body : Text) : ∃ found, d.read Catalog.standard body patterns = .ok found := by
  rcases hread : d.read Catalog.standard body patterns with failure | found
  case ok => exact ⟨found, rfl⟩
  exfalso
  obtain ⟨hvalue, pattern, hpattern, way, hmatch, p, hp, hargument⟩ := exists_argument_of_read_error hread
  obtain ⟨placement, hplacement, rfl⟩ := hpatterns pattern hpattern
  have hconvert : ∃ fault, Catalog.standard.convert p.type
      (way.captured? (captureNameOf d.inlineParameters p)) = .error fault ∧ failure = .ofInline fault := by
    simp only [argument] at hargument
    split at hargument
    · exact absurd hargument (by simp)
    · split at hargument
      · exact absurd hargument (by simp)
      · next fault hfault => exact ⟨fault, hfault, (Except.error.inj hargument).symm⟩
  obtain ⟨fault, hfault, rfl⟩ := hconvert
  obtain ⟨t, hcaptured, hnull, kind, hkind, hhandles, cause, hcause, rfl⟩ :=
    Catalog.convert_error (h.served p hp) hfault
  rcases InlineKind.read_error hkind hhandles hcause with ⟨cause, rfl⟩ | ⟨rfl, hdecimal, hnumber⟩
  · exact absurd hvalue (by simp [Failure.ofInline, Failure.isValueFault])
  · obtain ⟨c, hfind, rfl⟩ := Option.map_eq_some_iff.mp hcaptured
    have hname : c.name = captureNameOf d.inlineParameters p := by simpa using List.find?_some hfind
    obtain ⟨inner, hinner, hmatches⟩ :=
      LinePattern.exists_captured hmatch (List.mem_of_find?_eq_some hfind)
    rw [hname] at hinner
    have hpart := h.mem_captured_valuePart hnames hp hplacement hinner
    have hreal := (h.matches_real_or_null hp hdecimal hpart hmatches).resolve_right hnull
    obtain ⟨sign, whole, point, fraction, htext, hsign, hparts⟩ := exists_real_of_matches hreal
    rw [htext, Decimal.read?_eq hsign hparts] at hnumber
    exact absurd hnumber (by simp)

end Definition

end PlainSpec
