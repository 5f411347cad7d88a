import Mathlib.Data.List.Nodup
import Mathlib.Data.List.TakeWhile
import PlainSpec.Inline.Catalog

/-!
# The patterns of values

The pattern that stands for a parameter is made by the kind of inline values that serves the parameter's
type. This module gathers what all these patterns have in common: they capture what they match under the
name of the parameter and under no other, they are written with this name in front, and all that is
written in them stands for itself.

## Main results

* `Catalog.exists_pattern_of_handles`: the customary catalog has a pattern for each type that it serves.
* `InlineKind.source_pattern`: the pattern of a value is written with the name of its capture in front.
* `InlineKind.captureNames_pattern`: it has no other capture.
* `InlineKind.isPlain_pattern`: all that is written in it stands for itself.
* `RegularParameters.pattern_eq`: every regular parameter has a fragment.
-/

namespace PlainSpec

namespace Pattern

/-! ### How patterns are written -/

@[simp] theorem source_nothing : nothing.source = [] := rfl

@[simp] theorem source_literal (word : Text) : (literal word).source = escape word := rfl

@[simp] theorem source_chars (kind : CharKind) (quantity : Quantity) :
    (chars kind quantity).source = kind.source ++ quantity.source := rfl

@[simp] theorem source_seq (p q : Pattern) : (seq p q).source = p.source ++ q.source := rfl

@[simp] theorem source_optional (p : Pattern) : (optional p).source = "(?:" ++ p.source ++ ")?" := rfl

@[simp] theorem source_capture (name : Text) (p : Pattern) :
    (capture name p).source = "(?P<" ++ name ++ ">" ++ p.source ++ ")" := rfl

/-! ### Sequences and alternatives -/

/-- A sequence of two or more patterns is the first one **before the others**. -/
theorem sequence_cons_cons (p q : Pattern) (rest : List Pattern) :
    sequence (p :: q :: rest) = seq p (sequence (q :: rest)) := rfl

/-- A sequence is written as its patterns **one after the other**. -/
theorem source_sequence (ps : List Pattern) : (sequence ps).source = ps.flatMap source := by
  induction ps with
  | nil => rfl
  | cons p rest ih =>
      cases rest with
      | nil => simp [sequence]
      | cons q rest => rw [sequence_cons_cons, source_seq, ih]; rfl

/-- What is **collected** from a pattern, from left to right. Runs of characters have nothing to collect, and whether
a pattern may be missing does not matter. -/
structure Collects {α : Type} (collect : Pattern → List α) : Prop where
  nothing : collect nothing = []
  chars : ∀ kind quantity, collect (chars kind quantity) = []
  seq : ∀ p q, collect (seq p q) = collect p ++ collect q
  optional : ∀ p, collect (optional p) = collect p

/-- What is collected from a sequence is collected **from its patterns**. -/
theorem Collects.sequence {α : Type} {collect : Pattern → List α} (h : Collects collect) (ps : List Pattern) :
    collect (sequence ps) = ps.flatMap collect := by
  induction ps with
  | nil => exact h.nothing
  | cons p rest ih =>
      cases rest with
      | nil => simp [Pattern.sequence]
      | cons q rest => rw [sequence_cons_cons, h.seq, ih, ← List.flatMap_cons]

/-- Captures are **collected**. -/
theorem collects_captureNames : Collects captureNames :=
  ⟨rfl, fun _ _ => rfl, fun _ _ => rfl, fun _ => rfl⟩

/-- A sequence is plain if **its patterns** are. -/
theorem isPlain_sequence (ps : List Pattern) : (sequence ps).isPlain = ps.all isPlain := by
  induction ps with
  | nil => rfl
  | cons p rest ih =>
      cases rest with
      | nil => simp [sequence]
      | cons q rest => rw [sequence_cons_cons, isPlain, ih]; rfl

/-! ### Inert patterns -/

/-- A pattern is **inert** if it captures nothing and all that is written in it stands for itself. -/
def Inert (p : Pattern) : Prop := p.captureNames = [] ∧ p.isPlain = true

/-- A sequence of inert patterns is **inert**. -/
theorem inert_sequence {ps : List Pattern} (h : ∀ p ∈ ps, p.Inert) : (sequence ps).Inert := by
  rw [Inert, collects_captureNames.sequence, isPlain_sequence, List.flatMap_eq_nil_iff, List.all_eq_true]
  exact ⟨fun p hp => (h p hp).1, fun p hp => (h p hp).2⟩

/-- Alternatives that are inert are **inert** together. -/
theorem inert_oneOf {ps : List Pattern} (h : ∀ p ∈ ps, p.Inert) : (oneOf ps).Inert := by
  induction ps with
  | nil => exact ⟨rfl, rfl⟩
  | cons p rest ih =>
      obtain ⟨hp, hrest⟩ := List.forall_mem_cons.mp h
      cases rest with
      | nil => exact hp
      | cons q rest =>
          obtain ⟨hnames, hplain⟩ := ih hrest
          refine ⟨?_, ?_⟩
          · show p.captureNames ++ (oneOf (q :: rest)).captureNames = []
            rw [hp.1, hnames, List.append_nil]
          · show (p.isPlain && (oneOf (q :: rest)).isPlain) = true
            rw [hp.2, hplain, Bool.and_self]

/-- Inert patterns with inert ones **between them** are inert. -/
theorem inert_intersperse {ps : List Pattern} {separator : Pattern} (h : ∀ p ∈ ps, p.Inert)
    (hseparator : separator.Inert) : ∀ p ∈ ps.intersperse separator, p.Inert := by
  induction ps with
  | nil => simp
  | cons p rest ih =>
      obtain ⟨hp, hrest⟩ := List.forall_mem_cons.mp h
      cases rest with
      | nil => simpa using hp
      | cons q rest =>
          rw [List.intersperse_cons_cons, List.forall_mem_cons, List.forall_mem_cons]
          exact ⟨hp, hseparator, ih hrest⟩

/-! ### Named captures -/

/-- A name **without a closing bracket** is the name of a capture. -/
theorem named_eq_capture {name : Text} (h : '>' ∉ name) (p : Pattern) :
    named name p = capture name p := by
  have hdrop : name.dropWhile (· != '>') = [] := by
    rw [List.dropWhile_eq_nil_iff]
    intro c hc
    rw [bne_iff_ne]
    rintro rfl
    exact h hc
  rw [named, hdrop]

end Pattern

/-- An identifier has **no closing bracket**. -/
theorem not_mem_of_isIdentifier {name : Text} (h : isIdentifier name = true) : '>' ∉ name := by
  cases name with
  | nil => exact List.not_mem_nil
  | cons c rest =>
      rw [isIdentifier, Bool.and_eq_true, List.all_eq_true] at h
      intro hmem
      rcases List.mem_cons.mp hmem with rfl | hmem
      · exact absurd h.1 (by decide)
      · exact absurd (h.2 _ hmem) (by decide)

/-! ### The kinds of inline values -/

namespace InlineKind

/-- The pattern of a member's name is **inert**. -/
theorem inert_memberPattern (name : Text) : (memberPattern name).Inert := by
  refine Pattern.inert_sequence (Pattern.inert_intersperse ?_ ⟨rfl, rfl⟩)
  intro p hp
  obtain ⟨word, -, rfl⟩ := List.mem_map.mp hp
  exact ⟨rfl, rfl⟩

/-- An inert pattern added **for nothing** leaves patterns inert. -/
theorem inert_orNull {nullable : Bool} {null : Pattern} {patterns : List Pattern}
    (hnull : null.Inert) (h : ∀ p ∈ patterns, p.Inert) :
    ∀ p ∈ orNull nullable null patterns, p.Inert := by
  cases nullable with
  | false => exact h
  | true =>
      intro p hp
      rcases List.mem_append.mp hp with hp | hp
      · exact h p hp
      · exact List.mem_singleton.mp hp ▸ hnull

/-- **The shape of a value's pattern**: something inert that is captured under the name, and perhaps
something inert behind it. -/
theorem pattern_eq (kind : InlineKind) (type : Option ParamType) (nullable : Bool) {name : Text}
    (h : '>' ∉ name) :
    ∃ inner : Pattern, inner.Inert ∧ (kind.pattern type nullable name = .capture name inner ∨
      ∃ after : Pattern, after.Inert ∧
        kind.pattern type nullable name = .seq (.capture name inner) after) := by
  have hnull : (Pattern.literal nullWord).Inert := ⟨rfl, rfl⟩
  have hnullGroup : (Pattern.group (.literal nullWord)).Inert := ⟨rfl, rfl⟩
  cases kind with
  | integer =>
      simp only [pattern, Pattern.named_eq_capture h]
      refine ⟨_, ?_, .inr ⟨_, ⟨rfl, rfl⟩, rfl⟩⟩
      cases nullable <;> exact ⟨rfl, rfl⟩
  | real =>
      refine ⟨_, ?_, .inl (Pattern.named_eq_capture h _)⟩
      cases nullable <;> exact ⟨rfl, rfl⟩
  | truth =>
      refine ⟨_, ?_, .inl (Pattern.named_eq_capture h _)⟩
      cases nullable <;> exact ⟨rfl, rfl⟩
  | enumeration =>
      have hmembers : ∀ e : Enumeration,
          ∀ p ∈ e.members.map fun member => memberPattern member.1, p.Inert := by
        intro e p hp
        obtain ⟨member, -, rfl⟩ := List.mem_map.mp hp
        exact inert_memberPattern member.1
      simp only [pattern]
      split
      · next e =>
        exact ⟨_, Pattern.inert_oneOf (inert_orNull hnullGroup (hmembers e)),
          .inl (Pattern.named_eq_capture h _)⟩
      · exact ⟨_, Pattern.inert_oneOf (inert_orNull hnullGroup (by simp)),
          .inl (Pattern.named_eq_capture h _)⟩
  | date =>
      refine ⟨_, ?_, .inl (Pattern.named_eq_capture h _)⟩
      cases nullable <;> exact ⟨rfl, rfl⟩
  | text => exact ⟨_, ⟨rfl, rfl⟩, .inl (Pattern.named_eq_capture h _)⟩
  | custom kind =>
      exact ⟨_, ⟨kind.captureNames_values type nullable, kind.isPlain_values type nullable⟩,
        .inl (Pattern.named_eq_capture h _)⟩

variable {kind : InlineKind} {type : Option ParamType} {nullable : Bool} {name : Text}

/-- The pattern of a value is **written with its name in front**. -/
theorem source_pattern (h : '>' ∉ name) :
    ∃ tail, (kind.pattern type nullable name).source = "(?P<" ++ (name ++ '>' :: tail) := by
  obtain ⟨inner, -, heq | ⟨after, -, heq⟩⟩ := pattern_eq kind type nullable h
  · exact ⟨inner.source ++ ")", by rw [heq]; simp⟩
  · exact ⟨inner.source ++ ")" ++ after.source, by rw [heq]; simp⟩

/-- The pattern of a value has **one capture**. -/
theorem captureNames_pattern (h : '>' ∉ name) :
    (kind.pattern type nullable name).captureNames = [name] := by
  obtain ⟨inner, hinner, heq | ⟨after, hafter, heq⟩⟩ := pattern_eq kind type nullable h
  · rw [heq, Pattern.captureNames, hinner.1]
  · rw [heq, Pattern.captureNames, Pattern.captureNames, hinner.1, hafter.1, List.append_nil]

/-- All that is written in the pattern of a value **stands for itself**. -/
theorem isPlain_pattern (h : '>' ∉ name) : (kind.pattern type nullable name).isPlain = true := by
  obtain ⟨inner, hinner, heq | ⟨after, hafter, heq⟩⟩ := pattern_eq kind type nullable h
  · rw [heq, Pattern.isPlain, hinner.2]
  · rw [heq, Pattern.isPlain, Pattern.isPlain, hinner.2, hafter.2, Bool.and_self]

end InlineKind

/-! ### The customary catalog -/

/-- A type that the customary catalog serves is **not optional**, once it has been taken out of an
optional one. -/
theorem unwrapType_of_handles {kind : InlineKind} {type : Option ParamType}
    (hkind : kind ∈ Catalog.standard) (h : kind.handles type = true) :
    unwrapType type = (type, false) := by
  simp only [Catalog.standard, List.mem_cons, List.not_mem_nil, or_false] at hkind
  rcases hkind with rfl | rfl | rfl | rfl | rfl | rfl <;>
    simp only [InlineKind.handles] at h <;> split at h <;> first | rfl | simp_all

/-- The customary catalog has a **pattern** for each type that it serves. -/
theorem Catalog.exists_pattern_of_handles {type : Option ParamType}
    (h : Catalog.standard.handles type = true) :
    ∃ kind ∈ Catalog.standard, kind.handles (unwrapType type).1 = true ∧ ∀ name,
      Catalog.standard.pattern type name =
        .ok (kind.pattern (unwrapType type).1 (unwrapType type).2 name) := by
  obtain ⟨kind, hfind⟩ := Option.isSome_iff_exists.mp h
  have hmem := List.mem_of_find?_eq_some hfind
  have hkind := List.find?_some hfind
  refine ⟨kind, hmem, hkind, fun name => ?_⟩
  have hinner : Catalog.standard.find? (unwrapType type).1 = some kind := by
    rw [Catalog.find?, unwrapType_of_handles hmem hkind]
    exact hfind
  simp only [Catalog.pattern, hinner]

/-! ### Regular parameters -/

/-- **Regular** parameters: they have different names, all of them identifiers, and types that the
customary catalog serves. -/
structure RegularParameters (parameters : List Parameter) : Prop where
  identifier : ∀ p ∈ parameters, isIdentifier p.name = true
  served : ∀ p ∈ parameters, Catalog.standard.handles p.type = true
  different : (parameters.map Parameter.name).Nodup

/-- The **fragment** of a parameter: the pattern of its values, captured under its name. -/
def Parameter.fragment (p : Parameter) : Pattern :=
  match Catalog.standard.pattern p.type p.name with
  | .ok pattern => pattern
  | .error _ => .nothing

namespace RegularParameters

variable {parameters : List Parameter} {p q : Parameter}

/-- Regular parameters **differ**. -/
theorem nodup (h : RegularParameters parameters) : parameters.Nodup := h.different.of_map _

/-- The name **tells the parameter**. -/
theorem eq_of_name (h : RegularParameters parameters) (hp : p ∈ parameters) (hq : q ∈ parameters)
    (hname : p.name = q.name) : p = q :=
  List.inj_on_of_nodup_map h.different hp hq hname

/-- The name of a parameter has no closing bracket. -/
theorem bracket_notMem (h : RegularParameters parameters) (hp : p ∈ parameters) : '>' ∉ p.name :=
  not_mem_of_isIdentifier (h.identifier p hp)

/-- The catalog **gives the fragment**, and a kind of values has made it. -/
theorem pattern_eq (h : RegularParameters parameters) (hp : p ∈ parameters) :
    Catalog.standard.pattern p.type p.name = .ok p.fragment ∧ ∃ kind : InlineKind,
      kind.handles (unwrapType p.type).1 = true ∧
        p.fragment = kind.pattern (unwrapType p.type).1 (unwrapType p.type).2 p.name := by
  obtain ⟨kind, -, hhandles, hpattern⟩ := Catalog.exists_pattern_of_handles (h.served p hp)
  have hfragment : p.fragment =
      kind.pattern (unwrapType p.type).1 (unwrapType p.type).2 p.name := by
    rw [Parameter.fragment, hpattern]
  exact ⟨by rw [hpattern, hfragment], kind, hhandles, hfragment⟩

/-- A fragment is written **with the parameter's name in front**. -/
theorem source_fragment (h : RegularParameters parameters) (hp : p ∈ parameters) :
    ∃ tail, p.fragment.source = "(?P<" ++ (p.name ++ '>' :: tail) := by
  obtain ⟨-, kind, -, heq⟩ := h.pattern_eq hp
  rw [heq]
  exact InlineKind.source_pattern (h.bracket_notMem hp)

/-- A fragment **captures the parameter** and nothing else. -/
theorem captureNames_fragment (h : RegularParameters parameters) (hp : p ∈ parameters) :
    p.fragment.captureNames = [p.name] := by
  obtain ⟨-, kind, -, heq⟩ := h.pattern_eq hp
  rw [heq, InlineKind.captureNames_pattern (h.bracket_notMem hp)]

/-- All that is written in a fragment stands for itself. -/
theorem isPlain_fragment (h : RegularParameters parameters) (hp : p ∈ parameters) :
    p.fragment.isPlain = true := by
  obtain ⟨-, kind, -, heq⟩ := h.pattern_eq hp
  rw [heq, InlineKind.isPlain_pattern (h.bracket_notMem hp)]

end RegularParameters

end PlainSpec
