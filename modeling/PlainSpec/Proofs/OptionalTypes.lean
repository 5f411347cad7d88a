import PlainSpec.Proofs.LetterVariants
import PlainSpec.Proofs.NumbersDenoted

/-!
# Optional types

The fragment of an optional type is written apart from that of the type inside. What it adds is the word for nothing
in any case. There are two exceptions: the ordinal ending of an integer may also stand behind the word for nothing,
as it stands outside the group, and an enumeration without members matches the empty text only as long as it is not
optional. Converting adds nothing but the word.

## Main results

* `Catalog.fullMatch?_isSome_iff`: a whole text is matched if the pattern of the kind describes it.
* `matches_optional_iff`: what the patterns of an optional type describe.
* `Catalog.optional_adds_null`: what an optional type adds to the texts that are matched and converted.
-/

namespace PlainSpec

/-- The types whose values **stand in the line** of a step. -/
def ParamType.isInline : ParamType → Bool
  | int | real | decimal | bool | text | date | enum _ => true
  | _ => false

/-- An enumeration **without members**. -/
def ParamType.isMemberless : ParamType → Bool
  | enum e => e.members.isEmpty
  | _ => false

/-- The word for nothing **with an ordinal ending** behind it. -/
def IsOrdinalNull (t : Text) : Prop :=
  ∃ u ending, t = u ++ ending ∧ Text.lower u = nullWord ∧ ∃ e ∈ ordinalEndings, Text.sameLetters e ending = true

variable {base : ParamType} {name t : Text} {kind : InlineKind}

/-- A type whose values stand in the line is **served**, and not optional. -/
theorem exists_kind_of_isInline (h : base.isInline = true) :
    unwrapType (some base) = (some base, false) ∧ ∃ kind, Catalog.standard.find? (some base) = some kind := by
  cases base <;> first | exact ⟨rfl, _, rfl⟩ | exact absurd h Bool.false_ne_true

/-- A **whole text is matched** if the pattern of the kind that serves the type describes it. -/
theorem Catalog.fullMatch?_isSome_iff {type inner : Option ParamType} {nullable : Bool}
    (htype : unwrapType type = (inner, nullable)) (hkind : standard.find? inner = some kind) :
    (standard.fullMatch? type name t).isSome = true ↔ (kind.pattern inner nullable name).Matches t := by
  rw [fullMatch?_eq htype hkind, Pattern.fullMatch?_isSome_iff]

/-! ### Patterns of optional types -/

/-- The word for nothing, **added to alternatives**, is described as well. -/
theorem matches_orNull_iff {null : Pattern} {patterns : List Pattern} (hne : patterns ≠ []) :
    (Pattern.oneOf (InlineKind.orNull true null patterns)).Matches t ↔
      (Pattern.oneOf patterns).Matches t ∨ null.Matches t := by
  rw [InlineKind.orNull, if_pos rfl, Pattern.matches_oneOf_iff (by simp), Pattern.matches_oneOf_iff hne]
  simp [or_and_right, exists_or]

/-- The word for nothing is a **run without white space**. -/
theorem matches_textPattern_of_null (h : Text.lower t = nullWord) : InlineKind.textPattern.Matches t := by
  have hsame := sameLetters_null_iff.mpr h
  have hne : t ≠ [] := by
    rintro rfl
    exact absurd h (by decide)
  refine .inr (.inr ⟨List.length_pos_iff.mpr hne, fun c hc => ?_⟩)
  obtain ⟨a, ha, hletter⟩ := Text.exists_sameLetter hsame hc
  have hink : ∀ a ∈ nullWord, isBlank a = false := List.forall_iff_forall_mem.mp (by decide)
  rw [CharKind.holds, ← isBlank_eq_of_sameLetter hletter, hink a ha]
  rfl

/-- An **optional integer** is an integer, or the word for nothing, and an ordinal ending may follow either. -/
theorem matches_optional_integer (hname : '>' ∉ name) :
    (InlineKind.integer.pattern (some .int) true name).Matches t ↔
      (InlineKind.integer.pattern (some .int) false name).Matches t ∨ Text.lower t = nullWord ∨ IsOrdinalNull t := by
  have hinner : (InlineKind.integer.pattern (some .int) false name).Matches t ↔
      ∃ u v, t = u ++ v ∧ InlineKind.integerPattern.Matches u ∧ IsOrdinalEnding v := by
    simp only [InlineKind.pattern, Pattern.named_eq_capture hname, ← matches_ending_iff]
    rfl
  have houter : (InlineKind.integer.pattern (some .int) true name).Matches t ↔
      ∃ u v, t = u ++ v ∧ (InlineKind.integerPattern.Matches u ∨ Text.lower u = nullWord) ∧ IsOrdinalEnding v := by
    simp only [InlineKind.pattern, Pattern.named_eq_capture hname, ← matches_ending_iff, ← sameLetters_null_iff]
    rfl
  rw [hinner, houter]
  constructor
  · rintro ⟨u, v, rfl, hinteger | hnull, hending⟩
    · exact .inl ⟨u, v, rfl, hinteger, hending⟩
    · rcases hending with rfl | hending
      · exact .inr (.inl (by rwa [List.append_nil]))
      · exact .inr (.inr ⟨u, v, rfl, hnull, hending⟩)
  · rintro (⟨u, v, rfl, hinteger, hending⟩ | hnull | ⟨u, v, rfl, hnull, hending⟩)
    · exact ⟨u, v, rfl, .inl hinteger, hending⟩
    · exact ⟨t, [], (List.append_nil t).symm, .inr hnull, .inl rfl⟩
    · exact ⟨u, v, rfl, .inr hnull, .inr hending⟩

/-- An **optional member** is a member or the word for nothing. Without members nothing is left but the word. -/
theorem matches_optional_enumeration (hname : '>' ∉ name) (e : Enumeration) :
    (InlineKind.enumeration.pattern (some (.enum e)) true name).Matches t ↔
      (InlineKind.enumeration.pattern (some (.enum e)) false name).Matches t ∧ e.members.isEmpty = false ∨
        Text.lower t = nullWord := by
  simp only [InlineKind.pattern, Pattern.named_eq_capture hname, Pattern.Matches, ← sameLetters_null_iff]
  by_cases hempty : e.members = []
  · simp [hempty, InlineKind.orNull, Pattern.oneOf, Pattern.Matches]
  · rw [matches_orNull_iff (by simpa using hempty)]
    simp [InlineKind.orNull, Pattern.Matches, hempty]

/-- **What the pattern of an optional type describes.** -/
theorem matches_optional_iff (hname : '>' ∉ name) (hkind : Catalog.standard.find? (some base) = some kind)
    (h : base.isInline = true) :
    (kind.pattern (some base) true name).Matches t ↔
      (kind.pattern (some base) false name).Matches t ∧ base.isMemberless = false ∨ Text.lower t = nullWord ∨
        base = .int ∧ IsOrdinalNull t := by
  cases base with
  | int =>
      obtain rfl : InlineKind.integer = kind := Option.some.inj hkind
      simp [matches_optional_integer hname, ParamType.isMemberless]
  | real | decimal =>
      obtain rfl : InlineKind.real = kind := Option.some.inj hkind
      simp [InlineKind.pattern, Pattern.named_eq_capture hname, Pattern.oneOf, Pattern.Matches, ParamType.isMemberless,
        sameLetters_null_iff]
  | bool =>
      obtain rfl : InlineKind.truth = kind := Option.some.inj hkind
      simp only [InlineKind.pattern, Pattern.named_eq_capture hname, Pattern.Matches]
      rw [matches_orNull_iff (by decide)]
      simp [InlineKind.orNull, ParamType.isMemberless, Pattern.Matches, sameLetters_null_iff]
  | date =>
      obtain rfl : InlineKind.date = kind := Option.some.inj hkind
      simp only [InlineKind.pattern, Pattern.named_eq_capture hname, Pattern.Matches]
      rw [matches_orNull_iff (by decide)]
      simp [InlineKind.orNull, ParamType.isMemberless, Pattern.Matches, sameLetters_null_iff]
  | text =>
      obtain rfl : InlineKind.text = kind := Option.some.inj hkind
      show (InlineKind.text.pattern (some .text) false name).Matches t ↔ _
      simp only [ParamType.isMemberless, reduceCtorEq, false_and, or_false, and_true]
      refine (or_iff_left_of_imp fun hnull => ?_).symm
      simp only [InlineKind.pattern, Pattern.named_eq_capture hname]
      exact matches_textPattern_of_null hnull
  | «enum» e =>
      obtain rfl : InlineKind.enumeration = kind := Option.some.inj hkind
      rw [matches_optional_enumeration hname e]
      simp [ParamType.isMemberless]
  | _ => exact absurd h Bool.false_ne_true

/-! ### What an optional type adds -/

/-- **An optional type adds the word for nothing.** For the types whose values stand in the line, a whole text is
matched by the fragment of the optional type if it is matched by that of the type, or is the word for nothing in any
case; an optional integer also matches the word with an ordinal ending, and members must be there to be matched. Any
text but the word converts as it does for the type inside, to the same value or with the same fault, and the word
converts to nothing. -/
theorem Catalog.optional_adds_null {type : ParamType} (hname : isIdentifier name = true)
    (hinline : base.isInline = true) (htype : type.unwrapOptional = (base, true)) :
    (∀ t, (standard.fullMatch? (some type) name t).isSome = true ↔
      (standard.fullMatch? (some base) name t).isSome = true ∧ base.isMemberless = false ∨
        Text.lower t = nullWord ∨ base = .int ∧ IsOrdinalNull t) ∧
    (∀ t, Text.lower t ≠ nullWord →
      standard.convert (some type) (some t) = standard.convert (some base) (some t)) ∧
    (∀ t, Text.lower t = nullWord → standard.convert (some type) (some t) = .ok .nothing) := by
  have hunwrap : unwrapType (some type) = (some base, true) := by rw [unwrapType, htype]
  obtain ⟨hbase, kind, hkind⟩ := exists_kind_of_isInline hinline
  refine ⟨fun t => ?_, fun t ht => ?_, fun t ht => ?_⟩
  · rw [fullMatch?_isSome_iff hunwrap hkind, fullMatch?_isSome_iff hbase hkind]
    exact matches_optional_iff (not_mem_of_isIdentifier hname) hkind hinline
  · rw [convert_eq hunwrap hkind, convert_required hbase hkind, Bool.true_and, if_neg (by simpa using ht)]
  · rw [convert_eq hunwrap hkind, ht]
    rfl

/-- An **optional number** of things: the word in capitals, a number, and nothing. -/
theorem Catalog.optional_adds_null_count :
    (standard.fullMatch? (some (.union [.int, .nothing])) "count" "NULL").isSome = true ∧
      standard.convert (some (.union [.int, .nothing])) (some "7th") = standard.convert (some .int) (some "7th") ∧
      standard.convert (some (.union [.int, .nothing])) (some "Null") = .ok .nothing := by
  obtain ⟨hmatch, hother, hnull⟩ := @optional_adds_null .int "count" (.union [.int, .nothing]) (by decide) rfl rfl
  exact ⟨(hmatch "NULL").mpr (.inr (.inl (by decide))), hother "7th" (by decide), hnull "Null" (by decide)⟩

/-- **The two exceptions**: an optional integer also matches the word for nothing with an ordinal ending, which is
neither a number nor the word, and the empty text that an enumeration without members matches is lost. -/
theorem Catalog.optional_adds_more :
    ((standard.fullMatch? (some (.union [.int, .nothing])) "value" "nullth").isSome = true ∧
      (standard.fullMatch? (some .int) "value" "nullth").isSome = false ∧ Text.lower "nullth" ≠ nullWord) ∧
    (standard.fullMatch? (some (.enum ⟨"Empty", [], []⟩)) "value" []).isSome = true ∧
      (standard.fullMatch? (some (.union [.enum ⟨"Empty", [], []⟩, .nothing])) "value" []).isSome = false := by
  decide

end PlainSpec
