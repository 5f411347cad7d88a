import PlainSpec.Proofs.KeptPatterns
import PlainSpec.Verification.Runner

/-!
# The run of a scenario

Verifying a scenario carries its result and a flag through its steps: the flag is set by the first step that is
undefined or fails, and from then on steps are only looked up. The step that fails also leaves the error of the
scenario. This module describes the whole run at once, by the results it leaves and by the calls it makes.

* `StepResult.Called` says which calls belong to the result of one step, `CalledInOrder` which belong to
  results that follow one another.
* `CutAtBreak` says how the results of a scenario follow one another.
* `ScenarioResult.Aligned` says that the error of a scenario is that of the step that failed.
* `Runner.Noted` says what verifying steps adds to the report.
* `Runner.Verified` gathers what is known of a scenario that has been verified.

A step is looked up in the registry as the steps before have left it, but nothing can be told from the
patterns that these have made (`Registry.bind_congr`), so the findings are those of the registry at the
start.

## Main results

* `verifyStep_of_bind`: what verifying one step does.
* `verifySteps_of_bind`: what verifying steps does, by induction on the steps.
* `verifyScenario_spec`: a scenario is verified as described, unless looking up one of its steps fails.
-/

namespace PlainSpec

/-! ### The calls of a step -/

/-- The **calls that belong to a result**, after earlier calls. A step that passed has called its function
once. A step that failed has called it once, or not at all if its block did not suit a parameter. A step that
was undefined or skipped has called nothing. -/
inductive StepResult.Called (earlier : List Call) : StepResult → List Call → Prop
  | passed {step : Step} {binding : Binding} {arguments : Entries Value} :
      Definition.blockArguments step.block binding.arguments
        binding.definition.blockParameters = .ok arguments →
      binding.definition.function.raises earlier (binding.definition.call arguments) = none →
      Called earlier ⟨step, .bound binding, .passed⟩ [binding.definition.call arguments]
  | raised {step : Step} {binding : Binding} {arguments : Entries Value} {raised : Raised} :
      Definition.blockArguments step.block binding.arguments
        binding.definition.blockParameters = .ok arguments →
      binding.definition.function.raises earlier (binding.definition.call arguments) = some raised →
      Called earlier ⟨step, .bound binding, .failed raised⟩ [binding.definition.call arguments]
  | unsuited {step : Step} {binding : Binding} {complaint : Text} :
      Definition.blockArguments step.block binding.arguments
        binding.definition.blockParameters = .error complaint →
      Called earlier ⟨step, .bound binding, .failed ⟨"TypeError", some complaint⟩⟩ []
  | undefined {step : Step} {closest : Option Text} :
      Called earlier ⟨step, .undefined closest, .undefined⟩ []
  | skipped {step : Step} {binding : Binding} :
      Called earlier ⟨step, .bound binding, .skipped⟩ []

/-- The **calls that belong to results** that follow one another: those of each result come after those of
the results before it, and what a call raised may depend on these. -/
inductive CalledInOrder : List Call → List StepResult → List Call → Prop
  | done {earlier : List Call} : CalledInOrder earlier [] []
  | next {earlier calls later : List Call} {x : StepResult} {xs : List StepResult} :
      x.Called earlier calls → CalledInOrder (earlier ++ calls) xs later →
      CalledInOrder earlier (x :: xs) (calls ++ later)

/-- The calls of later results come **behind** those of earlier ones. -/
theorem CalledInOrder.append {earlier calls later : List Call} {xs ys : List StepResult}
    (h : CalledInOrder earlier xs calls) (hlater : CalledInOrder (earlier ++ calls) ys later) :
    CalledInOrder earlier (xs ++ ys) (calls ++ later) := by
  induction h with
  | done => rwa [List.append_nil] at hlater
  | next hx _ ih =>
      rw [List.append_assoc]
      exact .next hx (ih (by rwa [List.append_assoc]))

/-- Invoking a definition that a step is bound to makes the calls of a step that **passed or failed**. -/
theorem called_of_invoke {earlier : List Call} {step : Step} {binding : Binding} {call : Option Call}
    {raised : Option Raised} (h : binding.invoke earlier step.block = (call, raised)) :
    StepResult.Called earlier ⟨step, .bound binding, raised.elim .passed .failed⟩ call.toList := by
  unfold Binding.invoke at h
  simp only at h
  rcases hb : Definition.blockArguments step.block binding.arguments
      binding.definition.blockParameters with complaint | arguments
  · rw [hb] at h
    obtain ⟨rfl, rfl⟩ := Prod.mk.inj h
    exact .unsuited hb
  · rw [hb] at h
    obtain ⟨rfl, rfl⟩ := Prod.mk.inj h
    rcases hr : binding.definition.function.raises earlier (binding.definition.call arguments) with
      _ | raised
    · exact .passed hb hr
    · exact .raised hb hr

/-! ### One step after the other -/

namespace StepResult

/-- Whether the **following steps** are skipped. -/
def breaks (x : StepResult) : Bool :=
  match x.status with
  | .failed _ | .undefined => true
  | .passed | .skipped => false

/-- A step **after the break**: undefined if no definition was found for it, and skipped otherwise. -/
def AfterBreak (x : StepResult) : Prop :=
  (x.status = .undefined ∧ ∃ closest, x.finding = .undefined closest) ∨
    (x.status = .skipped ∧ ∃ binding, x.finding = .bound binding)

/-- A step that **breaks** a scenario: it is undefined, or it failed. -/
def IsBreak (x : StepResult) : Prop := x.status = .undefined ∨ ∃ raised, x.status = .failed raised

/-- The flag is set exactly by the steps that break a scenario. -/
theorem breaks_iff (x : StepResult) : x.breaks = true ↔ x.IsBreak := by
  unfold IsBreak breaks
  cases x.status <;> simp

end StepResult

/-- The results of a scenario are **cut at the break**: every step passed, or there is a first step that
did not, which is undefined or failed, and the steps after it were not invoked. -/
def CutAtBreak (results : List StepResult) : Prop :=
  (∀ x ∈ results, x.status = .passed) ∨
    ∃ before b after, results = before ++ b :: after ∧ (∀ x ∈ before, x.status = .passed) ∧
      b.IsBreak ∧ ∀ x ∈ after, x.AfterBreak

namespace CutAtBreak

variable {x : StepResult} {results : List StepResult}

/-- A step that passed may stand in front of results that are cut at the break. -/
theorem cons_passed (hx : x.status = .passed) (h : CutAtBreak results) :
    CutAtBreak (x :: results) := by
  rcases h with h | ⟨before, b, after, rfl, hbefore, hb, hafter⟩
  · exact .inl (List.forall_mem_cons.mpr ⟨hx, h⟩)
  · exact .inr ⟨x :: before, b, after, rfl, List.forall_mem_cons.mpr ⟨hx, hbefore⟩, hb, hafter⟩

/-- A step that breaks the scenario may stand in front of steps that were not invoked. -/
theorem cons_break (hx : x.IsBreak) (h : ∀ y ∈ results, y.AfterBreak) : CutAtBreak (x :: results) :=
  .inr ⟨[], x, results, rfl, by simp, hx, h⟩

/-- If **no step breaks** the scenario, every step passed. -/
theorem passed_of_no_break (h : CutAtBreak results) (hno : ∀ x ∈ results, ¬ x.IsBreak) :
    ∀ x ∈ results, x.status = .passed := by
  rcases h with h | ⟨before, b, after, rfl, -, hb, -⟩
  · exact h
  · exact absurd hb (hno b (by simp))

/-- Either **no step failed**, or the one at the break did and no other. -/
theorem failed_cases (h : CutAtBreak results) :
    (∀ x ∈ results, ∀ raised, x.status ≠ .failed raised) ∨
      ∃ before b after raised, results = before ++ b :: after ∧ b.status = .failed raised ∧
        (∀ x ∈ before, ∀ raised, x.status ≠ .failed raised) ∧ ∀ x ∈ after, ∀ raised, x.status ≠ .failed raised := by
  have hpassed : ∀ x : StepResult, x.status = .passed → ∀ raised, x.status ≠ .failed raised := by
    intro x hx raised hs
    exact absurd (hx.symm.trans hs) (by simp)
  have hskipped : ∀ x : StepResult, x.AfterBreak → ∀ raised, x.status ≠ .failed raised := by
    rintro x (⟨hx, -⟩ | ⟨hx, -⟩) raised hs <;> exact absurd (hx.symm.trans hs) (by simp)
  rcases h with h | ⟨before, b, after, rfl, hbefore, hu | ⟨raised, hf⟩, hafter⟩
  · exact .inl fun x hx => hpassed x (h x hx)
  · refine .inl (List.forall_mem_append.mpr ⟨fun x hx => hpassed x (hbefore x hx), ?_⟩)
    refine List.forall_mem_cons.mpr ⟨fun raised hs => ?_, fun x hx => hskipped x (hafter x hx)⟩
    exact absurd (hu.symm.trans hs) (by simp)
  · exact .inr ⟨before, b, after, raised, rfl, hf, fun x hx => hpassed x (hbefore x hx),
      fun x hx => hskipped x (hafter x hx)⟩

/-- **At most one** step of a scenario failed. -/
theorem countP_failed_le_one (h : CutAtBreak results) :
    results.countP (fun x => x.raised?.isSome) ≤ 1 := by
  have hnone : ∀ xs : List StepResult, (∀ x ∈ xs, ∀ raised, x.status ≠ .failed raised) →
      xs.countP (fun x => x.raised?.isSome) = 0 := by
    intro xs hxs
    rw [List.countP_eq_zero]
    intro x hx
    cases hs : x.status <;> simp_all [StepResult.raised?]
  rcases h.failed_cases with h | ⟨before, b, after, raised, rfl, -, hbefore, hafter⟩
  · rw [hnone results h]
    exact Nat.zero_le 1
  · rw [List.countP_append, List.countP_cons, hnone before hbefore, hnone after hafter]
    split <;> omega

end CutAtBreak

/-! ### The result of a scenario -/

/-- The **error of a scenario** behind one more step: a step that failed leaves its own. -/
def StepResult.errorAfter (error : Option (Step × Raised)) (x : StepResult) : Option (Step × Raised) :=
  match x.status with
  | .failed raised => some (x.step, raised)
  | .passed | .undefined | .skipped => error

/-- Steps that did not fail leave **the error** as it was. -/
theorem foldl_errorAfter_of_not_failed {xs : List StepResult} (h : ∀ x ∈ xs, ∀ raised, x.status ≠ .failed raised)
    (error : Option (Step × Raised)) : xs.foldl StepResult.errorAfter error = error := by
  induction xs with
  | nil => rfl
  | cons x rest ih =>
      obtain ⟨hx, hrest⟩ := List.forall_mem_cons.mp h
      have herror : StepResult.errorAfter error x = error := by
        unfold StepResult.errorAfter
        split
        · next raised hs => exact absurd hs (hx raised)
        all_goals rfl
      rw [List.foldl_cons, herror, ih hrest]

/-- The error behind steps that are cut at the break is that of **the step that failed**. -/
theorem CutAtBreak.foldl_errorAfter_eq_some_iff {xs : List StepResult} (h : CutAtBreak xs) {step : Step}
    {raised : Raised} :
    xs.foldl StepResult.errorAfter none = some (step, raised) ↔
      ∃ x ∈ xs, x.step = step ∧ x.status = .failed raised := by
  rcases h.failed_cases with hnone | ⟨before, b, after, raised', rfl, hb, hbefore, hafter⟩
  · rw [foldl_errorAfter_of_not_failed hnone]
    constructor
    · exact fun herror => absurd herror (by simp)
    · rintro ⟨x, hx, -, hs⟩
      exact absurd hs (hnone x hx raised)
  · have herror : (before ++ b :: after).foldl StepResult.errorAfter none = some (b.step, raised') := by
      rw [List.foldl_append, foldl_errorAfter_of_not_failed hbefore, List.foldl_cons,
        foldl_errorAfter_of_not_failed hafter, StepResult.errorAfter, hb]
    rw [herror]
    constructor
    · intro hsome
      obtain ⟨rfl, rfl⟩ := Prod.mk.inj (Option.some.inj hsome)
      exact ⟨b, by simp, rfl, hb⟩
    · rintro ⟨x, hx, rfl, hs⟩
      rcases List.mem_append.mp hx with hx | hx
      · exact absurd hs (hbefore x hx raised)
      · rcases List.mem_cons.mp hx with rfl | hx
        · obtain rfl : raised' = raised := by simpa using hb.symm.trans hs
          rfl
        · exact absurd hs (hafter x hx raised)

namespace ScenarioResult

/-- The result of a scenario **with further steps**. -/
def extend (result : ScenarioResult) (xs : List StepResult) : ScenarioResult :=
  { result with steps := result.steps ++ xs, error := xs.foldl StepResult.errorAfter result.error }

@[simp] theorem scenario_extend (result : ScenarioResult) (xs : List StepResult) :
    (result.extend xs).scenario = result.scenario := rfl

@[simp] theorem steps_extend_start (feature scenario : Text) (xs : List StepResult) :
    ((start feature scenario).extend xs).steps = xs := rfl

/-- Without further steps the result **stays as it is**. -/
theorem extend_nil (result : ScenarioResult) : result.extend [] = result := by
  rw [extend, List.append_nil, List.foldl_nil]

/-- Further steps may come **one part after the other**. -/
theorem extend_extend (result : ScenarioResult) (xs ys : List StepResult) :
    (result.extend xs).extend ys = result.extend (xs ++ ys) := by
  simp only [extend, List.append_assoc, List.foldl_append]

/-- The error of a scenario is that of **the step that failed**, if one did. -/
def Aligned (result : ScenarioResult) : Prop :=
  ∀ step raised, result.error = some (step, raised) ↔
    ∃ x ∈ result.steps, x.step = step ∧ x.status = .failed raised

/-- A scenario whose steps are cut at the break has **the error of the step that failed**. -/
theorem aligned_extend_start {xs : List StepResult} (h : CutAtBreak xs) (feature scenario : Text) :
    ((start feature scenario).extend xs).Aligned :=
  fun _ _ => h.foldl_errorAfter_eq_some_iff

end ScenarioResult

/-! ### What is added to the report -/

/-- The phrase that is **closest** to an undefined step. -/
def Finding.closest? : Finding → Option Text
  | .bound _ => none
  | .undefined closest => closest

/-- The entry of a report on a step that **failed** in a scenario. -/
def StepResult.failureIn? (scenario : Text) (x : StepResult) : Option StepFailure :=
  x.raised?.map fun raised => ⟨scenario, x.step.text, raised⟩

/-- The entry of a report on a step that was **undefined** in a scenario. -/
def StepResult.undefinedIn? (scenario : Text) (x : StepResult) : Option UndefinedStep :=
  if x.status = .undefined then some ⟨scenario, x.step, x.finding.closest?⟩ else none

namespace Runner

/-- What verifying steps of a scenario **adds to the report**. The results of scenarios and the document are
left alone, and the registry matches alike. -/
structure Noted (scenario : Text) (r : Runner) (results : List StepResult) (r' : Runner) : Prop where
  failures : r'.report.failures =
    r.report.failures ++ results.filterMap (StepResult.failureIn? scenario)
  undefined : r'.report.undefined =
    r.report.undefined ++ results.filterMap (StepResult.undefinedIn? scenario)
  recorded : r'.results = r.results
  document : r'.document = r.document
  registry : r.registry.Alike r'.registry

namespace Noted

variable {scenario : Text} {r r₁ r₂ : Runner} {xs ys : List StepResult}

/-- Without steps **nothing** is added. -/
theorem refl (scenario : Text) (r : Runner) : Noted scenario r [] r :=
  ⟨(List.append_nil _).symm, (List.append_nil _).symm, rfl, rfl, .refl _⟩

/-- What later steps add comes **behind** what earlier ones have added. -/
theorem trans (h₁ : Noted scenario r xs r₁) (h₂ : Noted scenario r₁ ys r₂) :
    Noted scenario r (xs ++ ys) r₂ where
  failures := by rw [h₂.failures, h₁.failures, List.filterMap_append, List.append_assoc]
  undefined := by rw [h₂.undefined, h₁.undefined, List.filterMap_append, List.append_assoc]
  recorded := h₂.recorded.trans h₁.recorded
  document := h₂.document.trans h₁.document
  registry := h₁.registry.trans h₂.registry

end Noted

/-! ### Verifying steps -/

/-- **One step**: a step whose look-up succeeds has a result with this finding, which comes behind those of
the scenario, makes the calls that belong to the result, and adds its entry to the report. It is invoked only
if the scenario is not broken, and skipped only if it is. -/
theorem verifyStep_of_bind (broken : Bool) (result : ScenarioResult) {r : Runner} {step : Step}
    {finding : Finding} (h : (r.registry.bind step).1 = .ok finding) :
    ∃ status calls r', r.verifyStep broken result step =
        (.ok (broken || StepResult.breaks ⟨step, finding, status⟩, result.extend [⟨step, finding, status⟩]), r') ∧
      StepResult.Called r.calls ⟨step, finding, status⟩ calls ∧ r'.calls = r.calls ++ calls ∧
      Noted result.scenario r [⟨step, finding, status⟩] r' ∧
      (if broken then StepResult.AfterBreak ⟨step, finding, status⟩
        else status = .passed ∨ StepResult.IsBreak ⟨step, finding, status⟩) := by
  have halike := Registry.bind_alike r.registry step
  unfold verifyStep
  generalize r.registry.bind step = found at h halike ⊢
  obtain ⟨outcome, registry⟩ := found
  simp only at h halike
  subst h
  rcases finding with binding | closest
  · cases broken with
    | true =>
        exact ⟨.skipped, [], _, rfl, .skipped, (List.append_nil _).symm,
          ⟨(List.append_nil _).symm, (List.append_nil _).symm, rfl, rfl, halike⟩, .inr ⟨rfl, binding, rfl⟩⟩
    | false =>
        simp only [Runner.invoke]
        rcases hi : binding.invoke r.calls step.block with ⟨call, raised⟩
        have hcalled := called_of_invoke hi
        cases raised with
        | none =>
            exact ⟨.passed, call.toList, _, rfl, hcalled, rfl,
              ⟨(List.append_nil _).symm, (List.append_nil _).symm, rfl, rfl, halike⟩, .inl rfl⟩
        | some raised =>
            exact ⟨.failed raised, call.toList, _, rfl, hcalled, rfl,
              ⟨rfl, (List.append_nil _).symm, rfl, rfl, halike⟩, .inr (.inr ⟨raised, rfl⟩)⟩
  · cases broken with
    | true =>
        exact ⟨.undefined, [], _, rfl, .undefined, (List.append_nil _).symm,
          ⟨(List.append_nil _).symm, rfl, rfl, rfl, halike⟩, .inl ⟨rfl, closest, rfl⟩⟩
    | false =>
        exact ⟨.undefined, [], _, rfl, .undefined, (List.append_nil _).symm,
          ⟨(List.append_nil _).symm, rfl, rfl, rfl, halike⟩, .inr (.inl rfl)⟩

/-- A step whose look-up **fails** is verified with this failure. -/
theorem verifyStep_of_bind_error (broken : Bool) (result : ScenarioResult) {r : Runner} {step : Step}
    {failure : Failure} (h : (r.registry.bind step).1 = .error failure) :
    (r.verifyStep broken result step).1 = .error failure := by
  unfold verifyStep
  generalize r.registry.bind step = found at h ⊢
  obtain ⟨outcome, registry⟩ := found
  simp only at h
  subst h
  rfl

/-- What is known of **verified steps**: they have results in order, with the findings of the registry at
the start, the calls are those that belong to the results, and so are the entries of the report. -/
structure VerifiedSteps (scenario : Text) (r : Runner) (broken : Bool) (steps : List Step)
    (results : List StepResult) (r' : Runner) : Prop where
  steps : results.map (·.step) = steps
  findings : ∀ x ∈ results, (r.registry.bind x.step).1 = .ok x.finding
  order : if broken then ∀ x ∈ results, x.AfterBreak else CutAtBreak results
  calls : ∃ calls, CalledInOrder r.calls results calls ∧ r'.calls = r.calls ++ calls
  noted : Noted scenario r results r'

/-- The steps after a step that **has a result** are verified with what it leaves. -/
theorem verifySteps_cons {broken broken' : Bool} {result result' : ScenarioResult} {r r' : Runner} {step : Step}
    (h : r.verifyStep broken result step = (.ok (broken', result'), r')) (rest : List Step) :
    verifySteps broken result r (step :: rest) = verifySteps broken' result' r' rest := by
  rw [verifySteps, h]

/-- A step whose verification **fails** is the last one. -/
theorem verifySteps_of_error {broken : Bool} {result : ScenarioResult} {r : Runner} {step : Step}
    {failure : Failure} (h : (r.verifyStep broken result step).1 = .error failure) (rest : List Step) :
    (verifySteps broken result r (step :: rest)).1 = .error failure := by
  unfold verifySteps
  generalize r.verifyStep broken result step = outcome at h ⊢
  obtain ⟨outcome, r'⟩ := outcome
  simp only at h
  subst h
  rfl

/-- The order of results **continues** with the flag that a step leaves. -/
theorem order_cons {broken : Bool} {x : StepResult} {results : List StepResult}
    (hx : if broken then x.AfterBreak else x.status = .passed ∨ x.IsBreak)
    (h : if broken || x.breaks then ∀ y ∈ results, y.AfterBreak else CutAtBreak results) :
    if broken then ∀ y ∈ x :: results, y.AfterBreak else CutAtBreak (x :: results) := by
  cases broken with
  | true =>
      simp only [Bool.true_or, if_true] at h hx ⊢
      exact List.forall_mem_cons.mpr ⟨hx, h⟩
  | false =>
      simp only [Bool.false_or, Bool.false_eq_true, if_false] at h hx ⊢
      rcases hx with hpassed | hbreak
      · rw [StepResult.breaks, hpassed] at h
        exact .cons_passed hpassed h
      · rw [if_pos ((StepResult.breaks_iff x).mpr hbreak)] at h
        exact .cons_break hbreak h

/-- **All steps**: steps whose look-up succeeds are verified as described, and their results come behind those
of the scenario; else looking up one of them fails, and so does verifying them. The induction carries the flag
and a registry that matches alike. -/
theorem verifySteps_of_bind (steps : List Step) :
    ∀ (broken : Bool) (result : ScenarioResult) (r : Runner),
      (∃ step ∈ steps, ∃ failure, (r.registry.bind step).1 = .error failure ∧
        (verifySteps broken result r steps).1 = .error failure) ∨
      ∃ xs r', verifySteps broken result r steps = (.ok (result.extend xs), r') ∧
        VerifiedSteps result.scenario r broken steps xs r' := by
  induction steps with
  | nil =>
      intro broken result r
      refine .inr ⟨[], r, ?_, rfl, by simp, ?_, ⟨[], .done, (List.append_nil _).symm⟩, .refl _ _⟩
      · rw [verifySteps, ScenarioResult.extend_nil]
      · cases broken with
        | true => simp
        | false => exact .inl (by simp)
  | cons step rest ih =>
      intro broken result r
      rcases hbind : (r.registry.bind step).1 with failure | finding
      · exact .inl ⟨step, by simp, failure, hbind,
          verifySteps_of_error (verifyStep_of_bind_error broken result hbind) rest⟩
      obtain ⟨status, calls, r₁, hstep, hcalled, hcalls, hnoted, horder⟩ :=
        verifyStep_of_bind broken result hbind
      have hcongr : ∀ s, (r₁.registry.bind s).1 = (r.registry.bind s).1 :=
        fun s => (Registry.bind_congr hnoted.registry s).symm
      have hcons := verifySteps_cons hstep rest
      rcases ih (broken || StepResult.breaks ⟨step, finding, status⟩)
          (result.extend [⟨step, finding, status⟩]) r₁ with
        ⟨s, hs, failure, hfail, hrun⟩ | ⟨xs, r₂, hrun, hsteps, hfindings, hrest, ⟨cs, hcs, hlog⟩, hadded⟩
      · exact .inl ⟨s, List.mem_cons_of_mem step hs, failure, (hcongr s).symm.trans hfail, by rw [hcons, hrun]⟩
      · refine .inr ⟨⟨step, finding, status⟩ :: xs, r₂, ?_, ?_, ?_, order_cons horder hrest,
          ⟨calls ++ cs, .next hcalled (hcalls ▸ hcs), ?_⟩, hnoted.trans hadded⟩
        · rw [hcons, hrun, ScenarioResult.extend_extend]
          rfl
        · rw [List.map_cons, hsteps]
        · refine List.forall_mem_cons.mpr ⟨hbind, fun x hx => ?_⟩
          exact (hcongr x.step).symm.trans (hfindings x hx)
        · rw [hlog, hcalls, List.append_assoc]

end Runner

/-! ### The status of a scenario -/

namespace ScenarioResult

variable {result : ScenarioResult}

/-- A scenario has an error exactly if one of its steps **failed**. -/
theorem Aligned.error_isSome_iff (h : result.Aligned) :
    result.error.isSome = true ↔ ∃ x ∈ result.steps, ∃ raised, x.status = .failed raised := by
  rw [Option.isSome_iff_exists]
  constructor
  · rintro ⟨⟨step, raised⟩, herror⟩
    obtain ⟨x, hx, -, hs⟩ := (h step raised).mp herror
    exact ⟨x, hx, raised, hs⟩
  · rintro ⟨x, hx, raised, hs⟩
    exact ⟨_, (h x.step raised).mpr ⟨x, hx, rfl, hs⟩⟩

/-- A scenario has undefined steps exactly if one of its steps **was undefined**. -/
theorem undefined_ne_nil_iff :
    result.undefined ≠ [] ↔ ∃ x ∈ result.steps, x.status = .undefined := by
  simp [undefined, StepResult.isUndefined]

/-- A scenario **failed** exactly if one of its steps did. -/
theorem Aligned.status_failed_iff (h : result.Aligned) :
    (∃ raised, result.status = .failed raised) ↔
      ∃ x ∈ result.steps, ∃ raised, x.status = .failed raised := by
  rw [← h.error_isSome_iff]
  unfold status
  rcases result.error with _ | ⟨step, raised⟩
  · by_cases hundefined : result.undefined.isEmpty <;> simp [hundefined]
  · simp

/-- A scenario is **undefined** exactly if no step failed and one was undefined. -/
theorem Aligned.status_undefined_iff (h : result.Aligned) :
    result.status = .undefined ↔
      (¬ ∃ x ∈ result.steps, ∃ raised, x.status = .failed raised) ∧
        ∃ x ∈ result.steps, x.status = .undefined := by
  rw [← h.error_isSome_iff, ← undefined_ne_nil_iff]
  unfold status
  rcases result.error with _ | ⟨step, raised⟩
  · by_cases hundefined : result.undefined = [] <;> simp [hundefined]
  · simp

/-- A scenario **passed** exactly if none of its steps breaks it. -/
theorem Aligned.status_passed_iff_no_break (h : result.Aligned) :
    result.status = .passed ↔ ∀ x ∈ result.steps, ¬ x.IsBreak := by
  rw [status_passed_iff, ← Option.not_isSome_iff_eq_none, h.error_isSome_iff, ← not_ne_iff,
    undefined_ne_nil_iff]
  constructor
  · rintro ⟨hfailed, hundefined⟩ x hx (hu | hf)
    · exact hundefined ⟨x, hx, hu⟩
    · exact hfailed ⟨x, hx, hf⟩
  · intro h
    exact ⟨fun ⟨x, hx, hf⟩ => h x hx (.inr hf), fun ⟨x, hx, hu⟩ => h x hx (.inl hu)⟩

/-- A scenario that is cut at the break **passed** exactly if every step did. -/
theorem Aligned.status_passed_iff_of_cut (h : result.Aligned) (hcut : CutAtBreak result.steps) :
    result.status = .passed ↔ ∀ x ∈ result.steps, x.status = .passed := by
  rw [h.status_passed_iff_no_break]
  constructor
  · exact hcut.passed_of_no_break
  · intro hall x hx hbreak
    have hx := hall x hx
    rcases hbreak with hu | ⟨raised, hf⟩
    · exact absurd (hx.symm.trans hu) (by simp)
    · exact absurd (hx.symm.trans hf) (by simp)

end ScenarioResult

/-! ### The whole scenario -/

namespace Runner

/-- What is known of a **verified scenario**: one result for each step in order, each with what the
registry finds for the step; results that are cut at the break, so that at most one step failed; the
calls that belong to the results, in the same order; the error of the step that failed; and the status that the
results call for. -/
structure Verified (r : Runner) (scenario : Scenario) (result : ScenarioResult) (r' : Runner) :
    Prop where
  steps : result.steps.map (·.step) = scenario.steps
  findings : ∀ x ∈ result.steps, (r.registry.bind x.step).1 = .ok x.finding
  cut : CutAtBreak result.steps
  failedOnce : result.steps.countP (fun x => x.raised?.isSome) ≤ 1
  calls : ∃ calls, CalledInOrder r.calls result.steps calls ∧ r'.calls = r.calls ++ calls
  error : ∀ step raised, result.error = some (step, raised) ↔
    ∃ x ∈ result.steps, x.step = step ∧ x.status = .failed raised
  failed : (∃ raised, result.status = .failed raised) ↔
    ∃ x ∈ result.steps, ∃ raised, x.status = .failed raised
  undefined : result.status = .undefined ↔
    (¬ ∃ x ∈ result.steps, ∃ raised, x.status = .failed raised) ∧
      ∃ x ∈ result.steps, x.status = .undefined
  passed : result.status = .passed ↔ ∀ x ∈ result.steps, x.status = .passed

/-- **The run of a scenario.** Unless looking up one of its steps fails, and then with this failure, a
scenario is verified as described. -/
theorem verifyScenario_spec (r : Runner) (feature : Text) (scenario : Scenario) :
    (∃ step ∈ scenario.steps, ∃ failure, (r.registry.bind step).1 = .error failure ∧
      (r.verifyScenario feature scenario).1 = .error failure) ∨
    ∃ result r', r.verifyScenario feature scenario = (.ok result, r') ∧
      r.Verified scenario result r' := by
  unfold verifyScenario
  rcases verifySteps_of_bind scenario.steps false (.start feature scenario.name) r with
    ⟨step, hstep, failure, hfail, hrun⟩ | ⟨xs, r', hrun, hverified⟩
  · refine .inl ⟨step, hstep, failure, hfail, ?_⟩
    generalize verifySteps false (.start feature scenario.name) r scenario.steps = outcome at hrun ⊢
    obtain ⟨result, r'⟩ := outcome
    simp only at hrun
    subst hrun
    rfl
  · refine .inr ⟨_, { r' with results := r'.results ++ _ }, by rw [hrun], ?_⟩
    have hcut : CutAtBreak xs := hverified.order
    have haligned := ScenarioResult.aligned_extend_start hcut feature scenario.name
    exact {
      steps := hverified.steps
      findings := hverified.findings
      cut := hcut
      failedOnce := hcut.countP_failed_le_one
      calls := hverified.calls
      error := haligned
      failed := haligned.status_failed_iff
      undefined := haligned.status_undefined_iff
      passed := haligned.status_passed_iff_of_cut hcut }

end Runner

end PlainSpec
