import PlainSpec.Proofs.Registrations

/-!
# The history of a registry

A registry lives through registrations, additions to its catalog, steps that are bound, and requests for the
patterns of a definition. This module says once what any of these does: definitions are appended, those that are
there settle with the catalog of the moment, and nothing but an addition changes the catalog. From this follows
what holds after a whole run.

## Main results

* `Registry.perform_cases`, `Registry.perform_advances`: what one operation does.
* `Registry.invalid_run`: what is noted as invalid after a run.
* `Registry.run_settles`: what a run does to the definitions while nothing is added to the catalog.
* `Registry.exists_making`: where in a run patterns that are kept were made.
-/

namespace PlainSpec

/-! ### Operations -/

/-- An **operation** on a registry. -/
inductive Operation
  | enter (registration : Registration)
  | addKind (kind : InlineKind) (first : Bool)
  | bind (step : Step)
  | patternsAt (index : Nat)

/-- What an operation makes **of the catalog**. -/
def Operation.extend (catalog : Catalog) : Operation → Catalog
  | .addKind kind first => catalog.add kind first
  | .enter _ | .bind _ | .patternsAt _ => catalog

/-- Whether an operation leaves the catalog **alone**. -/
def Operation.keepsCatalog : Operation → Bool
  | .addKind _ _ => false
  | .enter _ | .bind _ | .patternsAt _ => true

namespace Registry

/-- The registry **after an operation**, whether or not it fails. -/
def perform (r : Registry) : Operation → Registry
  | .enter registration => (r.enter registration).2
  | .addKind kind first => r.addKind kind first
  | .bind step => (r.bind step).2
  | .patternsAt index =>
    match r.patternsAt index with
    | .ok (_, r) => r
    | .error _ => r

/-- The registry **after several operations**. -/
def run (r : Registry) (ops : List Operation) : Registry := ops.foldl perform r

theorem run_append (r : Registry) (before after : List Operation) :
    r.run (before ++ after) = (r.run before).run after :=
  List.foldl_append

/-! ### What an operation does -/

/-- Of elements that are related one by one, each **has its counterpart**. -/
theorem exists_getElem?_of_forall₂ {α β : Type} {R : α → β → Prop} {as : List α} {bs : List β}
    (h : List.Forall₂ R as bs) {i : Nat} {a : α} (ha : as[i]? = some a) : ∃ b, bs[i]? = some b ∧ R a b := by
  induction h generalizing i with
  | nil => exact absurd ha (by simp)
  | @cons _ b _ _ hab _ ih =>
      cases i with
      | zero =>
          obtain rfl := Option.some.inj ha
          exact ⟨b, rfl, hab⟩
      | succ i => exact ih ha

variable {r r' : Registry} {catalog : Catalog} {op : Operation} {ops : List Operation} {i : Nat}
  {d e : Definition} {patterns : List LinePattern}

/-- A registry **advances**: each of its definitions settles with its catalog, and those that come behind them are
as registering leaves them. -/
structure Advances (r r' : Registry) : Prop where
  kept : ∀ (i : Nat) (d : Definition), r.definitions[i]? = some d →
    ∃ e, r'.definitions[i]? = some e ∧ d.Settles r.catalog e
  fresh : ∀ (i : Nat) (e : Definition), r.definitions[i]? = none → r'.definitions[i]? = some e → e.Fresh r.catalog

namespace Advances

/-- A registry advances if its definitions **settle one by one**. -/
theorem of_forall₂ (h : List.Forall₂ (Definition.Settles r.catalog) r.definitions r'.definitions) :
    r.Advances r' := by
  refine ⟨fun i d hd => exists_getElem?_of_forall₂ h hd, fun i e hnone hsome => ?_⟩
  rw [List.getElem?_eq_none_iff, h.length_eq] at hnone
  rw [List.getElem?_eq_none hnone] at hsome
  exact absurd hsome (by simp)

/-- A registry that **grows** advances. -/
theorem of_grown {added : List Definition} (h : r.Grown r' added) : r.Advances r' := by
  refine ⟨fun i d hd => ⟨d, ?_, .inl rfl⟩, fun i e hnone hsome => h.fresh e ?_⟩
  · rwa [h.definitions_eq, List.getElem?_append_left (List.getElem?_eq_some_iff.mp hd).1]
  · rw [h.definitions_eq, List.getElem?_append_right (List.getElem?_eq_none_iff.mp hnone)] at hsome
    exact List.mem_of_getElem? hsome

/-- A definition that is there afterwards **was there before, or is new**. -/
theorem of_getElem? (h : r.Advances r') (he : r'.definitions[i]? = some e) :
    (∃ d, r.definitions[i]? = some d ∧ d.Settles r.catalog e) ∨ e.Fresh r.catalog := by
  cases hd : r.definitions[i]? with
  | none => exact .inr (h.fresh i e hd he)
  | some d =>
      obtain ⟨e', he', hsettles⟩ := h.kept i d hd
      obtain rfl := Option.some.inj (he.symm.trans he')
      exact .inl ⟨d, rfl, hsettles⟩

end Advances

/-- Asking for patterns **compiles a definition**, which takes its own place. -/
theorem exists_compile_of_patternsAt (h : r.patternsAt i = .ok (patterns, r')) :
    ∃ d e, r.definitions[i]? = some d ∧ d.compile r.catalog = .ok (patterns, e) ∧
      r' = { r with definitions := r.definitions.set i e } := by
  simp only [patternsAt] at h
  split at h
  · exact absurd h (by simp)
  · next d hd =>
    rcases hcompile : d.compile r.catalog with failure | ⟨made, e⟩ <;> rw [hcompile] at h
    · exact absurd h (by simp [Except.map])
    · obtain ⟨rfl, rfl⟩ := Prod.mk.inj (Except.ok.inj h)
      exact ⟨d, e, hd, hcompile, rfl⟩

/-- Definitions settle one by one if **one of them does**, and the others are left alone. -/
theorem forall₂_settles_set {ds : List Definition} (hd : ds[i]? = some d) (hsettles : d.Settles catalog e) :
    List.Forall₂ (Definition.Settles catalog) ds (ds.set i e) := by
  induction ds generalizing i with
  | nil => exact absurd hd (by simp)
  | cons c rest ih =>
      cases i with
      | zero =>
          obtain rfl := Option.some.inj hd
          exact .cons hsettles (List.forall₂_same.mpr fun _ _ => .inl rfl)
      | succ i => exact .cons (.inl rfl) (ih hd)

/-- **What an operation does**: the registry grows, or its definitions settle one by one and none is noted. -/
theorem perform_cases (r : Registry) (op : Operation) :
    (∃ added, r.Grown (r.perform op) added) ∨
      List.Forall₂ (Definition.Settles r.catalog) r.definitions (r.perform op).definitions ∧
        (r.perform op).invalidAt = r.invalidAt := by
  have hsame : List.Forall₂ (Definition.Settles r.catalog) r.definitions r.definitions :=
    List.forall₂_same.mpr fun _ _ => .inl rfl
  cases op with
  | enter registration =>
      obtain ⟨added, hgrown, -⟩ := r.adds_enter registration
      exact .inl ⟨added, hgrown⟩
  | addKind kind first => exact .inr ⟨hsame, rfl⟩
  | bind step => exact .inr ⟨bindAmong_settles r.catalog step.kind step.body r.definitions 0, rfl⟩
  | patternsAt index =>
      simp only [perform]
      split
      · next patterns r' h =>
        obtain ⟨d, e, hd, hcompile, rfl⟩ := exists_compile_of_patternsAt h
        exact .inr ⟨forall₂_settles_set hd (.of_compile hcompile), rfl⟩
      · exact .inr ⟨hsame, rfl⟩

/-- **Every operation advances** a registry. -/
theorem perform_advances (r : Registry) (op : Operation) : r.Advances (r.perform op) := by
  rcases r.perform_cases op with ⟨added, hgrown⟩ | ⟨hsettles, -⟩
  · exact .of_grown hgrown
  · exact .of_forall₂ hsettles

/-- Where definitions settle, those that carry a fault stay **where they are**. -/
theorem faultyAt_congr {ds es : List Definition} (h : List.Forall₂ (Definition.Settles catalog) ds es)
    (position : Nat) : faultyAt ds position = faultyAt es position := by
  induction h generalizing position with
  | nil => rfl
  | @cons d e _ _ hde _ ih =>
      have hfault : d.fault? = e.fault? := by
        rcases hde with rfl | ⟨_, -, -, rfl⟩ <;> rfl
      simp only [faultyAt, List.findIdxs_cons, hfault] at ih ⊢
      rw [ih]

/-- Every operation keeps the two lists of a registry **in step**. -/
theorem InStep.perform (h : r.InStep) (op : Operation) : (r.perform op).InStep := by
  rcases r.perform_cases op with ⟨added, hgrown⟩ | ⟨hsettles, hnoted⟩
  · exact h.of_grown hgrown
  · rw [InStep, hnoted, ← faultyAt_congr hsettles, ← h]

/-- An operation makes of the catalog **what it says**. -/
theorem catalog_perform (r : Registry) (op : Operation) : (r.perform op).catalog = op.extend r.catalog := by
  cases op with
  | enter registration =>
      obtain ⟨added, hgrown, -⟩ := r.adds_enter registration
      exact hgrown.catalog_eq
  | addKind kind first => rfl
  | bind step => rfl
  | patternsAt index =>
      simp only [perform, Operation.extend]
      split
      · next patterns r' h =>
        obtain ⟨_, _, -, -, rfl⟩ := exists_compile_of_patternsAt h
        rfl
      · rfl

/-! ### Whole runs -/

/-- After every run the definitions that are noted as invalid are **those that carry a fault**. -/
theorem invalid_run (catalog : Catalog) (ops : List Operation) :
    ((empty catalog).run ops).invalid =
      ((empty catalog).run ops).definitions.filter fun d => d.fault?.isSome := by
  refine InStep.invalid_eq ?_
  induction ops using List.reverseRecOn with
  | nil => exact inStep_empty catalog
  | append_singleton ops op ih =>
      rw [run_append]
      exact ih.perform op

/-- A run makes of the catalog **what its operations say**. -/
theorem catalog_run (r : Registry) (ops : List Operation) :
    (r.run ops).catalog = ops.foldl Operation.extend r.catalog := by
  induction ops generalizing r with
  | nil => rfl
  | cons op rest ih => exact (ih (r.perform op)).trans (by rw [catalog_perform, List.foldl_cons])

/-- A run that adds nothing to the catalog **leaves it alone**. -/
theorem catalog_run_of_keeps (r : Registry) (hkeeps : ∀ op ∈ ops, op.keepsCatalog = true) :
    (r.run ops).catalog = r.catalog := by
  rw [catalog_run]
  induction ops with
  | nil => rfl
  | cons op rest ih =>
      obtain ⟨hop, hrest⟩ := List.forall_mem_cons.mp hkeeps
      rw [List.foldl_cons]
      cases op with
      | addKind kind first => exact absurd hop Bool.false_ne_true
      | enter _ | bind _ | patternsAt _ => exact ih hrest

/-- In a run that adds nothing to the catalog, every definition **settles**. -/
theorem run_settles (hkeeps : ∀ op ∈ ops, op.keepsCatalog = true) (hd : r.definitions[i]? = some d) :
    ∃ e, (r.run ops).definitions[i]? = some e ∧ d.Settles r.catalog e := by
  induction ops generalizing r d with
  | nil => exact ⟨d, hd, .inl rfl⟩
  | cons op rest ih =>
      obtain ⟨hop, hrest⟩ := List.forall_mem_cons.mp hkeeps
      obtain ⟨e, he, hsettles⟩ := (r.perform_advances op).kept i d hd
      obtain ⟨f, hf, hsettles'⟩ := ih hrest he
      have hsingle : ∀ other ∈ [op], other.keepsCatalog = true := List.forall_mem_singleton.mpr hop
      have hcatalog : (r.perform op).catalog = r.catalog := r.catalog_run_of_keeps hsingle
      exact ⟨f, hf, hsettles.trans (hcatalog ▸ hsettles')⟩

/-- **What is true of every definition** in a run that adds nothing to the catalog: what is true of a new one and
stays true when it settles. -/
theorem forall_run {P : Definition → Prop} (hkeeps : ∀ op ∈ ops, op.keepsCatalog = true)
    (hfresh : ∀ d, d.Fresh catalog → P d) (hsettles : ∀ d e, P d → d.Settles catalog e → P e) :
    ∀ d ∈ ((empty catalog).run ops).definitions, P d := by
  induction ops using List.reverseRecOn with
  | nil => exact fun d hd => absurd hd List.not_mem_nil
  | append_singleton ops op ih =>
      have hbefore := fun op hop => hkeeps op (List.mem_append_left _ hop)
      intro d hd
      obtain ⟨i, hi⟩ := List.getElem?_of_mem hd
      rw [run_append] at hi
      have hcatalog := (empty catalog).catalog_run_of_keeps hbefore
      rcases (perform_advances _ op).of_getElem? hi with ⟨e, he, h⟩ | h <;> rw [hcatalog] at h
      · exact hsettles e d (ih hbefore e (List.mem_of_getElem? he)) h
      · exact hfresh d h

/-- The **moment** at which a definition made the patterns that it keeps: before an operation it kept none, the patterns
are made with the catalog of that moment, and after the operation it keeps them. -/
structure Making (catalog : Catalog) (before : List Operation) (op : Operation) (i : Nat) (d : Definition)
    (patterns : List LinePattern) : Prop where
  unmade : ((empty catalog).run before).definitions[i]? = some { d with patterns := none }
  makes : d.Makes ((empty catalog).run before).catalog patterns
  kept : d.patterns = some patterns
  after : ((empty catalog).run (before ++ [op])).definitions[i]? = some d

/-- **Where kept patterns come from**: from some operation of the run. They are kept unchanged from then on. -/
theorem exists_making (hd : ((empty catalog).run ops).definitions[i]? = some d)
    (hkept : d.patterns = some patterns) :
    ∃ before op after, ops = before ++ op :: after ∧ Making catalog before op i d patterns := by
  induction ops using List.reverseRecOn generalizing d with
  | nil => exact absurd hd (by simp [run, empty])
  | append_singleton ops op ih =>
      have hbefore := hd
      rw [run_append] at hbefore
      rcases (perform_advances _ op).of_getElem? hbefore with
        ⟨e, he, rfl | ⟨made, hnone, hmakes, rfl⟩⟩ | hfresh
      · obtain ⟨before, making, after, rfl, h⟩ := ih he hkept
        exact ⟨before, making, after ++ [op], by simp, h⟩
      · obtain rfl := Option.some.inj hkept
        refine ⟨ops, op, [], rfl, ?_, ⟨hmakes.phrase, hmakes.usable⟩, rfl, hd⟩
        rw [he, ← hnone]
      · exact absurd (hkept.symm.trans hfresh.patterns) (by simp)

end Registry

end PlainSpec
