import PlainSpec.Proofs.KeptPatterns

/-!
# Interchangeable definitions

Which steps are bound to a definition, and with which arguments, is told by its kind, its phrase, its parameters and
whether it is valid. Its name counts only for the phrase, and its function for nothing before it is called. So a
definition may stand in the place of another one that has these in common with it: any steps, bound one after the
other, find definitions at the same positions with the same arguments, the same hints, or the same failure.

## Main results

* `Definition.read_congr`: what is read from a line depends on nothing but the parameters.
* `Registry.bind_interchangeable`: binding a step finds the same, and leaves registries as interchangeable as they
  were.
* `Registry.bindAll_interchangeable`: binding steps one after the other finds the same.
-/

namespace PlainSpec

/-! ### Definitions -/

namespace Definition

variable {catalog : Catalog} {d d' e e' : Definition}

/-- Two definitions are **interchangeable** with a catalog: they describe steps alike, take the same parameters, are
valid together, and make the same patterns. -/
structure Interchangeable (catalog : Catalog) (d e : Definition) : Prop extends d.DescribeAlike e where
  parameters : d.parameters = e.parameters
  isValid_eq : d.isValid = e.isValid
  patterns : (d.compile catalog).map Prod.fst = (e.compile catalog).map Prod.fst

/-- The arguments that a way of matching gives depend on **nothing but the parameters**. -/
theorem arguments_congr (h : d.parameters = e.parameters) (way : Way) :
    d.arguments catalog way = e.arguments catalog way := by
  have hinline : d.inlineParameters = e.inlineParameters := by rw [inlineParameters, inlineParameters, h]
  have hnames : d.captureNames = e.captureNames := by rw [captureNames, captureNames, hinline]
  unfold arguments argument
  rw [hinline, hnames]

/-- What is read from a line depends on **nothing but the parameters**. -/
theorem read_congr (h : d.parameters = e.parameters) (body : Text) (patterns : List LinePattern) :
    d.read catalog body patterns = e.read catalog body patterns := by
  induction patterns with
  | nil => rfl
  | cons pattern patterns ih =>
      rw [read, read, ih]
      simp only [arguments_congr h]

/-- Definitions that have made no patterns yet **make the same** from one phrase and the same parameters. -/
theorem compile_congr (hd : d.patterns = none) (he : e.patterns = none) (hphrase : d.phrase = e.phrase)
    (hparameters : d.parameters = e.parameters) :
    (d.compile catalog).map Prod.fst = (e.compile catalog).map Prod.fst := by
  have hinline : d.inlineParameters = e.inlineParameters := by
    rw [inlineParameters, inlineParameters, hparameters]
  unfold compile
  rw [hd, he, hphrase, hinline]
  rcases phrasePatterns catalog e.phrase e.inlineParameters with failure | patterns
  · rfl
  · simp only
    split <;> rfl

namespace Interchangeable

/-- Every definition is interchangeable **with itself**. -/
theorem refl (catalog : Catalog) (d : Definition) : Interchangeable catalog d d := ⟨⟨rfl, rfl⟩, rfl, rfl, rfl⟩

/-- Definitions that match like interchangeable ones **are interchangeable**. -/
theorem of_alike (h : Interchangeable catalog d e) (hd : Alike catalog d d') (he : Alike catalog e e') :
    Interchangeable catalog d' e' where
  kind := hd.kind_eq.symm.trans (h.kind.trans he.kind_eq)
  phrase := hd.describeAlike.phrase.symm.trans (h.phrase.trans he.describeAlike.phrase)
  parameters := by
    rw [← hd.fields, ← he.fields]
    exact h.parameters
  isValid_eq := hd.isValid_eq.symm.trans (h.isValid_eq.trans he.isValid_eq)
  patterns := by rw [← hd.compile, ← he.compile, h.patterns]

/-- Interchangeable definitions **fail together** to make patterns, or both make the same and stay
interchangeable. -/
theorem compile_cases (h : Interchangeable catalog d e) :
    (∃ failure, d.compile catalog = .error failure ∧ e.compile catalog = .error failure) ∨
      ∃ patterns d' e', d.compile catalog = .ok (patterns, d') ∧ e.compile catalog = .ok (patterns, e') ∧
        Interchangeable catalog d' e' := by
  have hpatterns := h.patterns
  rcases hd : d.compile catalog with failure | ⟨patterns, d'⟩ <;>
    rcases he : e.compile catalog with failure' | ⟨patterns', e'⟩ <;>
    rw [hd, he] at hpatterns
  · exact .inl ⟨failure, rfl, congrArg Except.error (Except.error.inj hpatterns).symm⟩
  · exact absurd hpatterns (by simp [Except.map])
  · exact absurd hpatterns (by simp [Except.map])
  · obtain rfl : patterns = patterns' := Except.ok.inj hpatterns
    exact .inr ⟨patterns, d', e', rfl, rfl, h.of_alike (compile_alike hd) (compile_alike he)⟩

end Interchangeable

end Definition

/-! ### Binding steps -/

/-- What is told of a **definition that is bound** without saying which one it is: its position and the arguments. -/
def Binding.outline (binding : Binding) : Nat × Entries Value := (binding.index, binding.arguments)

/-- What is told of **what is found** without saying which definition it is: a position and arguments, or else the
closest phrase. -/
def Finding.outline : Finding → (Nat × Entries Value) ⊕ Option Text
  | .bound binding => .inl binding.outline
  | .undefined closest => .inr closest

/-- Looking for a definition **stops at the same position**, with the same arguments, among definitions that are
interchangeable one by one. They stay so. -/
theorem bindAmong_interchangeable {catalog : Catalog} {ds es : List Definition} (kind : StepKind) (body : Text)
    (h : List.Forall₂ (Definition.Interchangeable catalog) ds es) : ∀ position,
    (bindAmong catalog kind body position ds).1.map (Option.map Binding.outline) =
        (bindAmong catalog kind body position es).1.map (Option.map Binding.outline) ∧
      List.Forall₂ (Definition.Interchangeable catalog) (bindAmong catalog kind body position ds).2
        (bindAmong catalog kind body position es).2 := by
  induction h with
  | nil => exact fun position => ⟨rfl, .nil⟩
  | @cons d e ds es hde hrest ih =>
      intro position
      obtain ⟨hfound, hstay⟩ := ih (position + 1)
      unfold bindAmong
      rw [hde.kind, hde.isValid_eq]
      split
      · rcases hde.compile_cases with ⟨failure, hd, he⟩ | ⟨patterns, d', e', hd, he, hmade⟩
        · rw [hd, he]
          exact ⟨rfl, .cons hde hrest⟩
        · simp only [hd, he, Definition.read_congr hmade.parameters]
          rcases e'.read catalog body patterns with failure | _ | arguments
          · exact ⟨rfl, .cons hmade hrest⟩
          · exact ⟨hfound, .cons hmade hstay⟩
          · exact ⟨rfl, .cons hmade hrest⟩
      · exact ⟨hfound, .cons hde hstay⟩

namespace Registry

/-- Two registries are **interchangeable**: they have one catalog, and definitions that are interchangeable one by
one. -/
structure Interchangeable (r s : Registry) : Prop where
  catalog : r.catalog = s.catalog
  definitions : List.Forall₂ (Definition.Interchangeable r.catalog) r.definitions s.definitions

/-- **Putting a definition in the place** of an interchangeable one makes an interchangeable registry. -/
theorem interchangeable_of_replaced {catalog : Catalog} {d e : Definition}
    (h : Definition.Interchangeable catalog d e) (before after : List Definition) (invalidAt : List Nat) :
    Interchangeable ⟨catalog, before ++ d :: after, invalidAt⟩ ⟨catalog, before ++ e :: after, invalidAt⟩ where
  catalog := rfl
  definitions := List.rel_append (List.forall₂_same.mpr fun d _ => .refl catalog d)
    (.cons h (List.forall₂_same.mpr fun d _ => .refl catalog d))

variable {r s : Registry}

/-- What is told of a step that is bound comes from **where looking for a definition stops**, and from the closest
phrase. -/
theorem map_outline_bind (r : Registry) (step : Step) :
    (r.bind step).1.map Finding.outline =
      ((bindAmong r.catalog step.kind step.body 0 r.definitions).1.map (Option.map Binding.outline)).map
        (Option.elim · (.inr (r.closestPhrase step)) .inl) := by
  unfold bind
  rcases bindAmong r.catalog step.kind step.body 0 r.definitions with ⟨failure | _ | binding, definitions⟩ <;> rfl

/-- **Binding a step** finds the same in interchangeable registries, but for the definition itself, and leaves
interchangeable registries. -/
theorem bind_interchangeable (h : r.Interchangeable s) (step : Step) :
    (r.bind step).1.map Finding.outline = (s.bind step).1.map Finding.outline ∧
      (r.bind step).2.Interchangeable (s.bind step).2 := by
  have hclosest : r.closestPhrase step = s.closestPhrase step :=
    closestPhrase_congr (h.definitions.imp fun _ _ hde => hde.toDescribeAlike) step
  obtain ⟨catalog, ds, _⟩ := r
  obtain ⟨_, es, _⟩ := s
  obtain ⟨rfl, hdefinitions⟩ := h
  obtain ⟨hfound, hstay⟩ := bindAmong_interchangeable step.kind step.body hdefinitions 0
  exact ⟨by rw [map_outline_bind, map_outline_bind, hfound, hclosest], rfl, hstay⟩

/-- **Binding steps** one after the other finds the same in interchangeable registries, but for the definitions
themselves. -/
theorem bindAll_interchangeable (h : r.Interchangeable s) (steps : List Step) :
    (r.bindAll steps).1.map (List.map Finding.outline) = (s.bindAll steps).1.map (List.map Finding.outline) := by
  induction steps generalizing r s with
  | nil => rfl
  | cons step rest ih =>
      have houtline : ∀ (finding : Finding) (found : Except Failure (List Finding)),
          (found.map (finding :: ·)).map (List.map Finding.outline) =
            (found.map (List.map Finding.outline)).map (finding.outline :: ·) := by
        rintro finding (failure | findings) <;> rfl
      obtain ⟨hfound, hstay⟩ := bind_interchangeable h step
      rw [bindAll, bindAll]
      rcases hr : r.bind step with ⟨failure | finding, r'⟩ <;>
        rcases hs : s.bind step with ⟨failure' | finding', s'⟩ <;>
        rw [hr, hs] at hfound hstay
      · exact congrArg Except.error (Except.error.inj hfound)
      · exact absurd hfound (by simp [Except.map])
      · exact absurd hfound (by simp [Except.map])
      · simp only [houtline, ih hstay]
        rw [Except.ok.inj hfound]

end Registry

end PlainSpec
