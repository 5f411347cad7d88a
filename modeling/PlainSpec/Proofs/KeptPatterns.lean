import Mathlib.Data.List.Forall2
import PlainSpec.Binding.Basic

/-!
# Kept patterns

The patterns of a definition are made when they are first needed and kept from then on, so binding a step
changes the registry. This module shows that nothing can be told of the change: two registries whose
definitions **match alike**, one by one, find the same for every step, and a registry matches like itself
after any number of steps.

## Main results

* `compile_alike`: a definition that has made its patterns matches like before.
* `bindAmong_congr`, `Registry.bind_congr`: what is found depends on no patterns kept.
* `Registry.bind_alike`: binding a step leaves a registry that matches alike.
-/

namespace PlainSpec

/-! ### Definitions that match alike -/

/-- Two definitions **describe** steps alike: they have one kind and one phrase. -/
structure Definition.DescribeAlike (d e : Definition) : Prop where
  kind : d.kind = e.kind
  phrase : d.phrase = e.phrase

/-- Two definitions **match alike**: they make the same patterns, and differ in nothing but the patterns
that they keep. -/
structure Definition.Alike (catalog : Catalog) (d e : Definition) : Prop where
  compile : d.compile catalog = e.compile catalog
  fields : { d with patterns := e.patterns } = e

namespace Definition.Alike

variable {catalog : Catalog} {d e f : Definition}

/-- Every definition matches like itself. -/
theorem refl (catalog : Catalog) (d : Definition) : Alike catalog d d := ⟨rfl, rfl⟩

/-- Matching alike is transitive. -/
theorem trans (h₁ : Alike catalog d e) (h₂ : Alike catalog e f) : Alike catalog d f := by
  refine ⟨h₁.compile.trans h₂.compile, ?_⟩
  rw [← h₂.fields, ← h₁.fields]

/-- Definitions that match alike have the same kind. -/
theorem kind_eq (h : Alike catalog d e) : d.kind = e.kind := by
  rw [← h.fields]

/-- Definitions that match alike are valid together. -/
theorem isValid_eq (h : Alike catalog d e) : d.isValid = e.isValid := by
  rw [← h.fields]
  rfl

/-- Definitions that match alike describe steps alike. -/
theorem describeAlike (h : Alike catalog d e) : d.DescribeAlike e := by
  rw [← h.fields]
  exact ⟨rfl, rfl⟩

end Definition.Alike

/-- A definition **makes** patterns with a catalog: they are the patterns of its phrase, and all of them can be
used. -/
structure Definition.Makes (catalog : Catalog) (d : Definition) (patterns : List LinePattern) : Prop where
  phrase : phrasePatterns catalog d.phrase d.inlineParameters = .ok patterns
  usable : ∀ pattern ∈ patterns, pattern.inner.isUsable = true

/-- **What compiling gives**: the patterns that are kept, or else those that the definition makes, which it keeps
from then on. -/
theorem Definition.compile_eq_ok_iff {catalog : Catalog} {d e : Definition} {patterns : List LinePattern} :
    d.compile catalog = .ok (patterns, e) ↔ d.patterns = some patterns ∧ e = d ∨
      d.patterns = none ∧ d.Makes catalog patterns ∧ e = { d with patterns := some patterns } := by
  unfold Definition.compile
  rcases hkept : d.patterns with _ | kept
  · simp only [reduceCtorEq, false_and, true_and, false_or]
    constructor
    · intro h
      split at h
      · exact absurd h (by simp)
      · next made hmade =>
        split at h
        · next husable =>
          obtain ⟨rfl, rfl⟩ := Prod.mk.inj (Except.ok.inj h)
          exact ⟨⟨hmade, List.all_eq_true.mp husable⟩, rfl⟩
        · exact absurd h (by simp)
    · rintro ⟨⟨hmade, husable⟩, rfl⟩
      simp only [hmade, List.all_eq_true.mpr husable, if_true]
  · simp [@eq_comm _ d e]

/-- The patterns of a definition, once made, are **made no more**: compiling it again gives the same. -/
theorem Definition.compile_idem {catalog : Catalog} {d e : Definition} {patterns : List LinePattern}
    (h : d.compile catalog = .ok (patterns, e)) : e.compile catalog = .ok (patterns, e) := by
  rw [Definition.compile_eq_ok_iff]
  rcases Definition.compile_eq_ok_iff.mp h with ⟨hkept, rfl⟩ | ⟨-, -, rfl⟩
  · exact .inl ⟨hkept, rfl⟩
  · exact .inl ⟨rfl, rfl⟩

/-- Compiling a definition changes **none of its other fields**. -/
theorem Definition.fields_of_compile {catalog : Catalog} {d e : Definition}
    {patterns : List LinePattern} (h : d.compile catalog = .ok (patterns, e)) :
    { d with patterns := e.patterns } = e := by
  rcases Definition.compile_eq_ok_iff.mp h with ⟨-, rfl⟩ | ⟨-, -, rfl⟩ <;> rfl

/-- A definition that has made its patterns **matches like before**. -/
theorem Definition.compile_alike {catalog : Catalog} {d e : Definition}
    {patterns : List LinePattern} (h : d.compile catalog = .ok (patterns, e)) :
    Definition.Alike catalog d e :=
  ⟨h.trans (Definition.compile_idem h).symm, Definition.fields_of_compile h⟩

/-- A definition **settles** with a catalog: it is left alone, or it has made its patterns and keeps them. -/
def Definition.Settles (catalog : Catalog) (d e : Definition) : Prop :=
  e = d ∨ ∃ patterns, d.patterns = none ∧ d.Makes catalog patterns ∧ e = { d with patterns := some patterns }

namespace Definition.Settles

variable {catalog : Catalog} {d e f : Definition}

/-- Compiling lets a definition **settle**. -/
theorem of_compile {patterns : List LinePattern} (h : d.compile catalog = .ok (patterns, e)) :
    d.Settles catalog e := by
  rcases compile_eq_ok_iff.mp h with ⟨-, rfl⟩ | ⟨hnone, hmakes, rfl⟩
  · exact .inl rfl
  · exact .inr ⟨patterns, hnone, hmakes, rfl⟩

/-- A definition that settles **matches like before**. -/
theorem alike (h : d.Settles catalog e) : Alike catalog d e := by
  rcases h with rfl | ⟨patterns, hnone, hmakes, rfl⟩
  · exact .refl catalog _
  · exact compile_alike (compile_eq_ok_iff.mpr (.inr ⟨hnone, hmakes, rfl⟩))

/-- What has settled **stays**: settling again changes nothing. -/
theorem trans (h₁ : d.Settles catalog e) (h₂ : e.Settles catalog f) : d.Settles catalog f := by
  rcases h₁ with rfl | h₁
  · exact h₂
  · rcases h₂ with rfl | ⟨_, hnone, -⟩
    · exact .inr h₁
    · obtain ⟨patterns, -, -, rfl⟩ := h₁
      exact absurd hnone (by simp)

end Definition.Settles

/-! ### Lists of definitions -/

section

variable {catalog : Catalog} {ds es fs : List Definition}

/-- Definitions match like themselves, **one by one**. -/
theorem forall₂_alike_refl (catalog : Catalog) (ds : List Definition) :
    List.Forall₂ (Definition.Alike catalog) ds ds :=
  List.forall₂_same.mpr fun d _ => Definition.Alike.refl catalog d

/-- Matching alike one by one is transitive. -/
theorem forall₂_alike_trans (h₁ : List.Forall₂ (Definition.Alike catalog) ds es)
    (h₂ : List.Forall₂ (Definition.Alike catalog) es fs) :
    List.Forall₂ (Definition.Alike catalog) ds fs := by
  induction h₁ generalizing fs with
  | nil => exact h₂
  | cons hde _ ih =>
      cases h₂ with
      | cons hef hrest => exact .cons (hde.trans hef) (ih hrest)

/-- Looking for a definition finds **the same** among definitions that match alike. -/
theorem bindAmong_congr (kind : StepKind) (body : Text)
    (h : List.Forall₂ (Definition.Alike catalog) ds es) :
    ∀ position, (bindAmong catalog kind body position ds).1 =
      (bindAmong catalog kind body position es).1 := by
  induction h with
  | nil => intro position; rfl
  | @cons d e ds es hde _ ih =>
      intro position
      unfold bindAmong
      rw [hde.kind_eq, hde.isValid_eq, hde.compile]
      split
      · rcases e.compile catalog with failure | ⟨patterns, f⟩
        · rfl
        · simp only
          rcases f.read catalog body patterns with failure | _ | arguments
          · rfl
          · exact ih (position + 1)
          · rfl
      · exact ih (position + 1)

/-- Looking for a definition lets definitions **settle**, one by one. -/
theorem bindAmong_settles (catalog : Catalog) (kind : StepKind) (body : Text) (ds : List Definition) :
    ∀ position, List.Forall₂ (Definition.Settles catalog) ds
      (bindAmong catalog kind body position ds).2 := by
  have hsame : ∀ rest : List Definition, List.Forall₂ (Definition.Settles catalog) rest rest :=
    fun rest => List.forall₂_same.mpr fun d _ => .inl rfl
  induction ds with
  | nil => intro position; exact .nil
  | cons d rest ih =>
      intro position
      unfold bindAmong
      split
      · rcases hc : d.compile catalog with failure | ⟨patterns, e⟩
        · exact hsame (d :: rest)
        · have hde := Definition.Settles.of_compile hc
          simp only
          rcases e.read catalog body patterns with failure | _ | arguments
          · exact .cons hde (hsame rest)
          · exact .cons hde (ih (position + 1))
          · exact .cons hde (hsame rest)
      · exact .cons (.inl rfl) (ih (position + 1))

/-- Looking for a definition leaves definitions that **match alike**. -/
theorem bindAmong_alike (catalog : Catalog) (kind : StepKind) (body : Text) (ds : List Definition)
    (position : Nat) :
    List.Forall₂ (Definition.Alike catalog) ds (bindAmong catalog kind body position ds).2 :=
  (bindAmong_settles catalog kind body ds position).imp fun _ _ => Definition.Settles.alike

end

/-- Definitions that describe steps alike have the same phrases. -/
theorem phrases_congr {ds es : List Definition} (h : List.Forall₂ Definition.DescribeAlike ds es) :
    ds.map Definition.phrase = es.map Definition.phrase := by
  induction h with
  | nil => rfl
  | cons hde _ ih => rw [List.map_cons, List.map_cons, ih, hde.phrase]

/-- The text that is most alike depends on **nothing but the texts**. -/
theorem Similarity.map_mostAlike? {α : Type} (text : α → Text) (s : Text) (xs : List α) :
    (Similarity.mostAlike? text s xs).map text = Similarity.mostAlike? id s (xs.map text) := by
  cases xs with
  | nil => rfl
  | cons first rest =>
      simp only [Similarity.mostAlike?, List.map_cons, Option.map_some, Option.some.injEq, id]
      generalize Similarity.ratio s (text first) = r
      induction rest generalizing first r with
      | nil => rfl
      | cons next rest ih =>
          rw [List.foldl_cons, List.map_cons, List.foldl_cons]
          split
          · exact ih next _
          · exact ih first r

/-! ### Registries -/

namespace Registry

/-- Two registries **match alike**: they have one catalog, and definitions that match alike one by one. -/
structure Alike (r s : Registry) : Prop where
  catalog : r.catalog = s.catalog
  definitions : List.Forall₂ (Definition.Alike r.catalog) r.definitions s.definitions

/-- Every registry matches like itself. -/
theorem Alike.refl (r : Registry) : r.Alike r := ⟨rfl, forall₂_alike_refl r.catalog r.definitions⟩

/-- Matching alike is transitive. -/
theorem Alike.trans {r s t : Registry} (h₁ : r.Alike s) (h₂ : s.Alike t) : r.Alike t := by
  refine ⟨h₁.catalog.trans h₂.catalog, ?_⟩
  have h := h₂.definitions
  rw [← h₁.catalog] at h
  exact forall₂_alike_trans h₁.definitions h

/-- The closest phrase depends on **nothing but kinds and phrases**. -/
theorem closestPhrase_congr {r s : Registry}
    (h : List.Forall₂ Definition.DescribeAlike r.definitions s.definitions) (step : Step) :
    r.closestPhrase step = s.closestPhrase step := by
  have hkind : List.Forall₂ Definition.DescribeAlike (r.ofKind step.kind) (s.ofKind step.kind) :=
    List.rel_filter (fun d e hde => by simp [hde.kind]) h
  unfold closestPhrase
  rw [Similarity.map_mostAlike?, Similarity.map_mostAlike?]
  congr 1
  generalize r.ofKind step.kind = candidates at hkind
  generalize s.ofKind step.kind = others at hkind
  cases hkind with
  | nil => exact phrases_congr h
  | cons hde hrest => exact phrases_congr (.cons hde hrest)

/-- What is found for a step depends on **no patterns kept**. -/
theorem bind_congr {r s : Registry} (h : r.Alike s) (step : Step) :
    (r.bind step).1 = (s.bind step).1 := by
  unfold bind
  simp only
  rw [bindAmong_congr step.kind step.body h.definitions 0, h.catalog,
    closestPhrase_congr (h.definitions.imp fun _ _ => Definition.Alike.describeAlike) step]

/-- Binding a step leaves a registry that **matches alike**. -/
theorem bind_alike (r : Registry) (step : Step) : r.Alike (r.bind step).2 :=
  ⟨rfl, bindAmong_alike r.catalog step.kind step.body r.definitions 0⟩

end Registry

end PlainSpec
