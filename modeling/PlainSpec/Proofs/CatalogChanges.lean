import PlainSpec.Proofs.FirstMatch
import PlainSpec.Proofs.MadePatterns

/-!
# Changes of the catalog

A definition keeps the patterns that it has made, while the catalog may be added to. A text is captured by a pattern
of the catalog of that moment and read by the catalog of a later one. The two agree unless a kind of values was put in
front of the catalog in between that serves the type of a parameter: then the kept patterns are out of date.

## Main results

* `Catalog.find?_foldl_extend`: which kind of values is found after operations.
* `Registry.Making.makes_run`: patterns that are not disturbed are those that would be made now.
* `Registry.bind_kept`: what is bound to a step, with patterns that are kept.
* `Registry.kept_total`: patterns that are out of date.
-/

namespace PlainSpec

/-! ### What disturbs a definition -/

/-- An operation **disturbs** a definition: it puts a kind of values in front that serves the type of one of its inline
parameters. -/
def Operation.disturbs (d : Definition) : Operation → Bool
  | .addKind kind true => d.inlineParameters.any fun p => Catalog.handles [kind] (unwrapType p.type).1
  | _ => false

namespace Catalog

variable {catalog : Catalog} {kind found : InlineKind} {type : Option ParamType}

/-- A kind that is added **behind the others**, or that does not serve a type, leaves what is found for it. -/
theorem find?_add {first : Bool} (h : catalog.find? type = some found)
    (hfirst : first = true → handles [kind] type = false) :
    (catalog.add kind first).find? type = some found := by
  cases first with
  | false =>
      rw [find?] at h
      simp [add, find?, List.find?_append, h]
  | true =>
      have hother := hfirst rfl
      rw [handles, find?, Option.isSome_eq_false_iff, Option.isNone_iff_eq_none, List.find?_eq_none] at hother
      rw [find?] at h
      simp only [add, if_true, find?, List.find?_cons, h]
      simp [hother kind List.mem_cons_self]

/-- Operations that do not disturb a definition leave **the kinds of values** that are found for its parameters. -/
theorem find?_foldl_extend {d : Definition} {ops : List Operation}
    (hops : ∀ op ∈ ops, op.disturbs d = false) {p : Parameter} (hp : p ∈ d.inlineParameters)
    (h : catalog.find? (unwrapType p.type).1 = some found) :
    Catalog.find? (ops.foldl Operation.extend catalog) (unwrapType p.type).1 = some found := by
  induction ops generalizing catalog with
  | nil => exact h
  | cons op rest ih =>
      obtain ⟨hop, hrest⟩ := List.forall_mem_cons.mp hops
      refine ih hrest ?_
      cases op with
      | enter _ | bind _ | patternsAt _ => exact h
      | addKind kind first =>
          refine find?_add h fun hfirst => ?_
          subst hfirst
          rw [Operation.disturbs, List.any_eq_false] at hop
          simpa using hop p hp

end Catalog

/-- A kind of values **captures and reads** a text for a parameter: the pattern of its values captures the text, and the
value is what it reads, or nothing for the word for nothing if the type is optional. -/
structure InlineKind.Converts (kind : InlineKind) (name : Text) (p : Parameter) (t : Text) (value : Value) : Prop where
  captures : ∃ inner, (name, inner) ∈ (kind.pattern (unwrapType p.type).1 (unwrapType p.type).2 name).captured ∧
    inner.Matches t
  reads : if (unwrapType p.type).2 = true ∧ Text.lower t = nullWord then value = .nothing
    else kind.read (unwrapType p.type).1 t = .ok value

/-- A text that is converted is **read by the kind of values** that is found. -/
theorem Catalog.read_of_convert {catalog : Catalog} {type : Option ParamType} {kind : InlineKind} {t : Text}
    {value : Value} (hkind : catalog.find? (unwrapType type).1 = some kind)
    (h : catalog.convert type (some t) = .ok value) :
    if (unwrapType type).2 = true ∧ Text.lower t = nullWord then value = .nothing
      else kind.read (unwrapType type).1 t = .ok value := by
  simp only [convert, hkind, Bool.and_eq_true, beq_iff_eq] at h
  split at h
  · next hnull => rw [if_pos hnull, Except.ok.inj h]
  · next hnull =>
    rw [if_neg hnull]
    rcases hread : kind.read (unwrapType type).1 t with fault | read <;> rw [hread] at h
    · exact absurd h (by simp [Except.mapError])
    · rw [Except.ok.inj h]

/-- What a line captures **for a parameter** by patterns made with a catalog is read by the kind of values that the
catalog has for it. -/
theorem Definition.Makes.converts {catalog : Catalog} {d : Definition} {patterns : List LinePattern}
    (h : d.Makes catalog patterns) {pattern : LinePattern} (hpattern : pattern ∈ patterns) {body t : Text} {way : Way}
    (hmatch : pattern.match? body = some way) {arguments : Entries Value}
    (harguments : d.arguments catalog way = .ok arguments) {p : Parameter} (hp : p ∈ d.inlineParameters)
    {kind : InlineKind} (hkind : catalog.find? (unwrapType p.type).1 = some kind)
    (hcaptured : way.captured? (captureNameOf d.inlineParameters p) = some t) :
    ∃ value, arguments.lookup p.name = some value ∧
      kind.Converts (captureNameOf d.inlineParameters p) p t value := by
  obtain ⟨_, _, hplaced⟩ := h.exists_placedBy hpattern
  obtain ⟨kind', hkind', hcaptures⟩ := hplaced.exists_kind_of_captured hp hmatch hcaptured
  obtain rfl := Option.some.inj (hkind.symm.trans hkind')
  have hargument := lookup_arguments (fun p hp q hq => hplaced.eq_of_name hp hq) harguments hp
  obtain ⟨value, hvalue, hconvert⟩ := convert_of_captured hargument hcaptured
  exact ⟨value, hvalue, hcaptures, Catalog.read_of_convert hkind hconvert⟩

/-- A definition that **keeps nothing**. -/
def Definition.forget (d : Definition) : Definition := { d with patterns := none }

/-- A registry in which **nothing is kept**. -/
def Registry.forget (r : Registry) : Registry := { r with definitions := r.definitions.map Definition.forget }

namespace Registry

variable {catalog : Catalog} {before after ops : List Operation} {op : Operation} {i : Nat} {d : Definition}
  {patterns : List LinePattern}

/-- The operation that lets patterns be made **does not disturb** the definition. -/
theorem Making.disturbs_eq_false (h : Making catalog before op i d patterns) (e : Definition) :
    op.disturbs e = false := by
  cases op with
  | enter _ | bind _ | patternsAt _ => rfl
  | addKind kind first =>
      have hsame := h.after
      rw [run_append] at hsame
      have hunmade := h.unmade.symm.trans hsame
      rw [Option.some.injEq] at hunmade
      exact absurd (h.kept.symm.trans (congrArg Definition.patterns hunmade.symm)) (by simp)

/-- The kinds of values with which patterns were made are **still found**, if the definition is not disturbed. -/
theorem Making.find?_run (h : Making catalog before op i d patterns) (hafter : ∀ op ∈ after, op.disturbs d = false)
    {p : Parameter} (hp : p ∈ d.inlineParameters) {kind : InlineKind}
    (hkind : ((empty catalog).run before).catalog.find? (unwrapType p.type).1 = some kind) :
    ((empty catalog).run (before ++ op :: after)).catalog.find? (unwrapType p.type).1 = some kind := by
  rw [run_append, catalog_run]
  exact Catalog.find?_foldl_extend (List.forall_mem_cons.mpr ⟨h.disturbs_eq_false d, hafter⟩) hp hkind

/-- Patterns that were made and **not disturbed** are those that would be made now. -/
theorem Making.makes_run (h : Making catalog before op i d patterns)
    (hafter : ∀ op ∈ after, op.disturbs d = false) :
    d.Makes ((empty catalog).run (before ++ op :: after)).catalog patterns :=
  h.makes.of_find? fun _ hp _ => h.find?_run hafter hp

/-- A definition whose patterns are up to date **matches like one that keeps none**. -/
theorem forget_alike (h : d.UpToDate catalog) : Definition.Alike catalog d d.forget := by
  refine ⟨?_, rfl⟩
  rcases hkept : d.patterns with _ | patterns
  · rw [Definition.forget, ← hkept]
  · rw [Definition.compile_eq_ok_iff.mpr (.inl ⟨hkept, rfl⟩), eq_comm, Definition.compile_eq_ok_iff]
    exact .inr ⟨rfl, ⟨(h patterns hkept).phrase, (h patterns hkept).usable⟩, by rw [Definition.forget, ← hkept]⟩

/-- A definition that is bound and **up to date** reads the step as it does where it keeps nothing. -/
theorem reading_forget_of_bound {r : Registry} {step : Step} {b : Binding} (h : (r.bind step).1 = .ok (.bound b))
    (hupToDate : b.definition.UpToDate r.catalog) :
    b.definition.forget.reading r.catalog step.kind step.body = .ok (some (b.definition, b.arguments)) := by
  obtain ⟨d, -, hreading, -⟩ := bind_eq_bound_iff.mp h
  obtain ⟨-, -, _, hcompile, -⟩ := Definition.reading_eq_some_iff.mp hreading
  rw [← (forget_alike hupToDate).reading_eq, ← hreading]
  exact (Definition.compile_alike hcompile).reading_eq.symm

/-- Where **every definition is up to date**, matching gives what it gives where nothing is kept. -/
theorem bind_forget {r : Registry} (h : ∀ d ∈ r.definitions, d.UpToDate r.catalog) (step : Step) :
    (r.bind step).1 = (r.forget.bind step).1 := by
  have halike : r.Alike r.forget := ⟨rfl, List.forall₂_map_right_iff.mpr
    (List.forall₂_same.mpr fun d hd => forget_alike (h d hd))⟩
  exact bind_congr halike step

/-- **Kept patterns.** Take a registry after any registrations, additions to its catalog and steps. If a definition is
bound to a step, it keeps patterns that it made with the catalog of the moment when they were first needed, and the
step is matched by one of them. If no kind of values has been put in front of the catalog since that serves the type of
one of its parameters, then these are the patterns that it would make now, what is found is what would be found by
making them afresh, and every text is captured and read by the same kind of values. If this is so for all definitions
that keep patterns, then matching gives what it gives where nothing is kept. -/
theorem bind_kept (catalog : Catalog) (ops : List Operation) (step : Step) :
    let r := (empty catalog).run ops
    (∀ b, (r.bind step).1 = .ok (.bound b) →
      ∃ before op after earlier pattern later way,
        ops ++ [.bind step] = before ++ op :: after ∧
        Making catalog before op b.index b.definition (earlier ++ pattern :: later) ∧
        pattern.match? step.body = some way ∧
        ((∀ op ∈ after, op.disturbs b.definition = false) →
          b.definition.Makes r.catalog (earlier ++ pattern :: later) ∧
          (∀ other ∈ earlier, ∀ arguments, ¬b.definition.Gives r.catalog step.body other arguments) ∧
          b.definition.arguments r.catalog way = .ok b.arguments ∧
          b.definition.forget.reading r.catalog step.kind step.body = .ok (some (b.definition, b.arguments)) ∧
          ∀ p ∈ b.definition.inlineParameters, ∃ kind,
            ((empty catalog).run before).catalog.find? (unwrapType p.type).1 = some kind ∧
            r.catalog.find? (unwrapType p.type).1 = some kind ∧
            ∀ t, way.captured? (captureNameOf b.definition.inlineParameters p) = some t →
              ∃ value, b.arguments.lookup p.name = some value ∧
                kind.Converts (captureNameOf b.definition.inlineParameters p) p t value)) ∧
      ((∀ i d before op after patterns, r.definitions[i]? = some d → ops = before ++ op :: after →
          Making catalog before op i d patterns → ∀ op ∈ after, op.disturbs d = false) →
        (r.bind step).1 = (r.forget.bind step).1) := by
  intro r
  constructor
  · intro b hb
    obtain ⟨before, op, after, earlier, pattern, later, way, hsplit, hmaking, hearlier, hmatch, harguments⟩ :=
      exists_making_of_bound hb
    refine ⟨before, op, after, earlier, pattern, later, way, hsplit, hmaking, hmatch, fun hafter => ?_⟩
    have hcatalog : ((empty catalog).run (ops ++ [.bind step])).catalog = r.catalog := by
      rw [run_append]
      rfl
    have hmakes := hmaking.makes_run hafter
    rw [← hsplit, hcatalog] at hmakes
    have hpattern : pattern ∈ earlier ++ pattern :: later := List.mem_append_right _ List.mem_cons_self
    refine ⟨hmakes, hearlier, harguments, reading_forget_of_bound hb fun kept hkept => ?_, fun p hp => ?_⟩
    · exact Option.some.inj (hmaking.kept.symm.trans hkept) ▸ hmakes
    · obtain ⟨_, _, hplaced⟩ := hmaking.makes.exists_placedBy hpattern
      obtain ⟨kind, hthen, -⟩ := hplaced.parts p hp
      have hnow := hmaking.find?_run hafter hp hthen
      rw [← hsplit, hcatalog] at hnow
      exact ⟨kind, hthen, hnow, fun t hcaptured => hmakes.converts hpattern hmatch harguments hp hnow hcaptured⟩
  · intro hundisturbed
    refine bind_forget (fun d hd patterns hkept => ?_) step
    obtain ⟨i, hi⟩ := List.getElem?_of_mem hd
    obtain ⟨before, op, after, rfl, hmaking⟩ := exists_making hi hkept
    exact hmaking.makes_run (hundisturbed i d before op after patterns hi rfl hmaking)

/-- A step with a **whole number** in its line. -/
def totalStep : Step := ⟨.context, "Given total 12345", "Given", none⟩

/-- A definition for it is registered, and **the step is bound** once. -/
def totalOperations : List Operation :=
  [.enter (.definition "given_total_count" none [⟨"count", some .int, false⟩] ⟨"total", false, fun _ _ => none⟩),
    .bind totalStep]

/-- A kind of values for whole numbers between angle brackets that is added **behind the others** is not noticed: the
step is bound as if nothing were kept. -/
theorem bind_kept_total :
    (∀ op ∈ totalOperations ++ [.addKind (.bracketed (some .int) false) false], ∀ d, op.disturbs d = false) ∧
      ∃ b, (((empty Catalog.standard).run
            (totalOperations ++ [.addKind (.bracketed (some .int) false) false])).bind totalStep).1 =
          .ok (.bound b) ∧
        (((empty Catalog.standard).run
            (totalOperations ++ [.addKind (.bracketed (some .int) false) false])).forget.bind totalStep).1 =
          .ok (.bound b) := by
  have hundisturbed : ∀ op ∈ totalOperations ++ [.addKind (.bracketed (some .int) false) false],
      ∀ d, op.disturbs d = false := by simp [totalOperations, Operation.disturbs]
  have hbound : (((empty Catalog.standard).run
      (totalOperations ++ [.addKind (.bracketed (some .int) false) false])).bind totalStep).1 =
    .ok (.bound ⟨0, _, _⟩) := rfl
  have hsame := (bind_kept Catalog.standard (totalOperations ++ [.addKind (.bracketed (some .int) false) false])
    totalStep).2 fun i d before op after patterns _ hsplit _ other hother => by
      refine hundisturbed other ?_ d
      rw [hsplit]
      exact List.mem_append_right _ (List.mem_cons_of_mem _ hother)
  exact ⟨hundisturbed, _, hbound, hsame.symm.trans hbound⟩

/-- Patterns that are **out of date**: after a kind of values for whole numbers between angle brackets has been put in
front, the digits are still captured, but read as if brackets stood around them. With patterns made afresh the step is
undefined. -/
theorem kept_total :
    ∃ d closest,
      (((empty Catalog.standard).run
          (totalOperations ++ [.addKind (.bracketed (some .int) false) true])).bind totalStep).1 =
        .ok (.bound ⟨0, d, [(("count" : Text), .text "234")]⟩) ∧
      (((empty Catalog.standard).run
          (totalOperations ++ [.addKind (.bracketed (some .int) false) true])).forget.bind totalStep).1 =
        .ok (.undefined closest) :=
  ⟨_, _, rfl, rfl⟩

end Registry

end PlainSpec
