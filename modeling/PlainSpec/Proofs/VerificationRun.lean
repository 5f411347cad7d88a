import PlainSpec.Proofs.ScenarioRun

/-!
# The run of documents

Scenarios are verified one after the other, those of a document and those of several documents alike. This
module describes such a run as a whole. Nothing that it does depends on where one document ends and the next
one begins, so that all of it is said of one list of scenarios.

* `ScenarioResult.Of` says which result a scenario can have.
* `Runner.Ran` gathers what is known of scenarios that have been verified: their results, the calls, and
  what has been added to the report.

The report and the results are written at different places. That they agree has been shown for the steps of a
scenario (`Runner.Noted`), and is shown here for any number of scenarios.

## Main results

* `Runner.verifyScenarios_run`, `Runner.verifyDocument_run`, `Runner.verifyDocuments_run`: unless looking up
  some step fails, scenarios and documents are verified as described.
-/

namespace PlainSpec

/-! ### What results say -/

namespace ScenarioResult

/-- The entries on the steps of a scenario that **failed**, in order. -/
def failures (result : ScenarioResult) : List StepFailure :=
  result.steps.filterMap (StepResult.failureIn? result.scenario)

/-- The entries on the steps of a scenario that were **undefined**, in order. -/
def undefinedSteps (result : ScenarioResult) : List UndefinedStep :=
  result.steps.filterMap (StepResult.undefinedIn? result.scenario)

/-- A result that a scenario **can have**: it has the name of the scenario and its steps in order, is cut at the
break, and its error is that of the step that failed. -/
structure Of (scenario : Scenario) (result : ScenarioResult) : Prop where
  name : result.scenario = scenario.name
  steps : result.steps.map (·.step) = scenario.steps
  cut : CutAtBreak result.steps
  aligned : result.Aligned

end ScenarioResult

/-! ### Looking steps up -/

namespace Registry

/-- Whether looking up a step **succeeds**, be the step undefined or not. -/
def Matches (r : Registry) (step : Step) : Prop := ∃ finding, (r.bind step).1 = .ok finding

/-- Whether a step is matched **can be tried**. -/
instance (r : Registry) (step : Step) : Decidable (r.Matches step) :=
  match h : (r.bind step).1 with
  | .ok finding => .isTrue ⟨finding, h⟩
  | .error _ => .isFalse fun ⟨_, hfinding⟩ => absurd (h.symm.trans hfinding) (by simp)

/-- A step whose look-up fails is **not matched**. -/
theorem not_matches_of_error {r : Registry} {step : Step} {failure : Failure}
    (h : (r.bind step).1 = .error failure) : ¬r.Matches step := by
  rintro ⟨finding, hfinding⟩
  exact absurd (h.symm.trans hfinding) (by simp)

end Registry

namespace Runner

/-! ### Scenarios -/

/-- What is known of **scenarios that have been verified**: each has its result, with the findings of the
registry at the start; the calls are those that belong to the results, in order; and the results, the
failures and the undefined steps come behind those that were there before. -/
structure Ran (r : Runner) (scenarios : List Scenario) (results : List ScenarioResult) (r' : Runner) :
    Prop where
  scenarios : List.Forall₂ ScenarioResult.Of scenarios results
  findings : ∀ result ∈ results, ∀ x ∈ result.steps, (r.registry.bind x.step).1 = .ok x.finding
  calls : ∃ calls, CalledInOrder r.calls (results.flatMap (·.steps)) calls ∧ r'.calls = r.calls ++ calls
  recorded : r'.results = r.results ++ results
  failures : r'.report.failures = r.report.failures ++ results.flatMap ScenarioResult.failures
  undefined : r'.report.undefined = r.report.undefined ++ results.flatMap ScenarioResult.undefinedSteps
  document : r'.document = r.document
  registry : r.registry.Alike r'.registry

namespace Ran

variable {r r₁ r₂ : Runner} {scenarios others : List Scenario} {xs ys : List ScenarioResult}

/-- Without scenarios **nothing** is verified. -/
theorem refl (r : Runner) : Ran r [] [] r where
  scenarios := .nil
  findings := by simp
  calls := ⟨[], .done, (List.append_nil _).symm⟩
  recorded := (List.append_nil _).symm
  failures := (List.append_nil _).symm
  undefined := (List.append_nil _).symm
  document := rfl
  registry := .refl _

/-- Each result is **one that a scenario can have**. -/
theorem exists_of {r' : Runner} (h : r.Ran scenarios xs r') {result : ScenarioResult} (hresult : result ∈ xs) :
    ∃ scenario, ScenarioResult.Of scenario result := by
  obtain ⟨n, hn, rfl⟩ := List.getElem_of_mem hresult
  exact ⟨_, h.scenarios.get (by rwa [h.scenarios.length_eq]) hn⟩

/-- What later scenarios leave comes **behind** what earlier ones have left. -/
theorem trans (h₁ : r.Ran scenarios xs r₁) (h₂ : r₁.Ran others ys r₂) :
    r.Ran (scenarios ++ others) (xs ++ ys) r₂ where
  scenarios := List.rel_append h₁.scenarios h₂.scenarios
  findings := List.forall_mem_append.mpr ⟨h₁.findings, fun result hresult x hx =>
    (Registry.bind_congr h₁.registry x.step).trans (h₂.findings result hresult x hx)⟩
  calls := by
    obtain ⟨cs, hcs, hlog⟩ := h₁.calls
    obtain ⟨ds, hds, hlog'⟩ := h₂.calls
    refine ⟨cs ++ ds, ?_, by rw [hlog', hlog, List.append_assoc]⟩
    rw [List.flatMap_append]
    exact hcs.append (hlog ▸ hds)
  recorded := by rw [h₂.recorded, h₁.recorded, List.append_assoc]
  failures := by rw [h₂.failures, h₁.failures, List.flatMap_append, List.append_assoc]
  undefined := by rw [h₂.undefined, h₁.undefined, List.flatMap_append, List.append_assoc]
  document := h₂.document.trans h₁.document
  registry := h₁.registry.trans h₂.registry

end Ran

/-- **A scenario is verified** with one result, unless looking up one of its steps fails, and then with
this failure. -/
theorem verifyScenario_run (r : Runner) (feature : Text) (scenario : Scenario) :
    (∃ step ∈ scenario.steps, ∃ failure, (r.registry.bind step).1 = .error failure ∧
      (r.verifyScenario feature scenario).1 = .error failure) ∨
    ∃ result r', r.verifyScenario feature scenario = (.ok result, r') ∧
      r.Ran [scenario] [result] r' := by
  rcases verifySteps_of_bind scenario.steps false (.start feature scenario.name) r with
    ⟨step, hstep, failure, hfail, hrun⟩ | ⟨xs, r₁, hrun, hverified⟩
  · refine .inl ⟨step, hstep, failure, hfail, ?_⟩
    rcases hsteps : verifySteps false (.start feature scenario.name) r scenario.steps with ⟨outcome, r₁⟩
    rw [hsteps] at hrun
    simp only at hrun
    rw [verifyScenario, hsteps, hrun]
  · have hnoted := hverified.noted
    have haligned := ScenarioResult.aligned_extend_start hverified.order feature scenario.name
    refine .inr ⟨_, _, by rw [verifyScenario, hrun], ?_⟩
    exact {
      scenarios := .cons ⟨rfl, hverified.steps, hverified.order, haligned⟩ .nil
      findings := by simpa using hverified.findings
      calls := by simpa using hverified.calls
      recorded := by simp [hnoted.recorded]
      failures := by simpa [ScenarioResult.failures] using hnoted.failures
      undefined := by simpa [ScenarioResult.undefinedSteps] using hnoted.undefined
      document := hnoted.document
      registry := hnoted.registry }

/-- **Scenarios are verified in order**, unless looking up one of their steps fails. -/
theorem verifyScenarios_run (feature : Text) (scenarios : List Scenario) (r : Runner) :
    (∃ step ∈ scenarios.flatMap Scenario.steps, ∃ failure, (r.registry.bind step).1 = .error failure ∧
      (verifyScenarios feature r scenarios).1 = .error failure) ∨
    ∃ results r', verifyScenarios feature r scenarios = (.ok results, r') ∧
      r.Ran scenarios results r' := by
  induction scenarios generalizing r with
  | nil => exact .inr ⟨[], r, rfl, .refl r⟩
  | cons scenario rest ih =>
      rcases r.verifyScenario_run feature scenario with
        ⟨step, hstep, failure, hfail, hrun⟩ | ⟨result, r₁, hrun, hran⟩
      · refine .inl ⟨step, by simp [hstep], failure, hfail, ?_⟩
        rcases hscenario : r.verifyScenario feature scenario with ⟨outcome, r₁⟩
        rw [hscenario] at hrun
        simp only at hrun
        rw [verifyScenarios, hscenario, hrun]
      · rcases ih r₁ with ⟨step, hstep, failure, hfail, hrest⟩ | ⟨results, r₂, hrest, hran'⟩
        · rw [← Registry.bind_congr hran.registry] at hfail
          refine .inl ⟨step, List.mem_append_right _ hstep, failure, hfail, ?_⟩
          simp only [verifyScenarios, hrun, hrest]
          rfl
        · refine .inr ⟨result :: results, r₂, ?_, hran.trans hran'⟩
          simp only [verifyScenarios, hrun, hrest]
          rfl

/-! ### Documents -/

/-- **A document is verified** scenario by scenario, unless looking up one of its steps fails. -/
theorem verifyDocument_run (r : Runner) (document : Document) :
    (∃ step ∈ document.scenarios.flatMap Scenario.steps, ∃ failure,
      (r.registry.bind step).1 = .error failure ∧
        (r.verifyDocument (some document)).1 = .error failure) ∨
    ∃ results r', r.verifyDocument (some document) = (.ok results, r') ∧
      r.Ran document.scenarios results r' :=
  verifyScenarios_run document.featureName document.scenarios r

/-- **Documents are verified** one after the other, unless looking up one of their steps fails. -/
theorem verifyDocuments_run (sideBySide : Bool) (documents : List Document) (r : Runner) :
    (∃ step ∈ (documents.flatMap Document.scenarios).flatMap Scenario.steps, ∃ failure,
      (r.registry.bind step).1 = .error failure ∧
        (verifyDocuments sideBySide r documents).1 = .error failure) ∨
    ∃ results r', verifyDocuments sideBySide r documents = (.ok results, r') ∧
      r.Ran (documents.flatMap Document.scenarios) results r' := by
  induction documents generalizing r with
  | nil => exact .inr ⟨[], r, rfl, .refl r⟩
  | cons document rest ih =>
      rcases r.verifyDocument_run document with
        ⟨step, hstep, failure, hfail, hrun⟩ | ⟨results, r₁, hrun, hran⟩
      · refine .inl ⟨step, by simpa using .inl (by simpa using hstep), failure, hfail, ?_⟩
        rcases hdocument : r.verifyDocument (some document) with ⟨outcome, r₁⟩
        rw [hdocument] at hrun
        simp only at hrun
        rw [verifyDocuments, hdocument, hrun]
      · rcases ih r₁ with ⟨step, hstep, failure, hfail, hrest⟩ | ⟨others, r₂, hrest, hran'⟩
        · rw [← Registry.bind_congr hran.registry] at hfail
          refine .inl ⟨step, ?_, failure, hfail, ?_⟩
          · rw [List.flatMap_cons, List.flatMap_append]
            exact List.mem_append_right _ hstep
          · simp only [verifyDocuments, hrun, hrest]
            rfl
        · refine .inr ⟨results ++ others, r₂, ?_, ?_⟩
          · simp only [verifyDocuments, hrun, hrest]
            rfl
          · rw [List.flatMap_cons]
            exact hran.trans hran'

/-! ### Steps that are all matched -/

/-- A scenario whose steps are all matched **is verified**. -/
theorem verifyScenario_of_matches {r : Runner} {scenario : Scenario}
    (h : ∀ step ∈ scenario.steps, r.registry.Matches step) (feature : Text) :
    ∃ result r', r.verifyScenario feature scenario = (.ok result, r') ∧
      r.Ran [scenario] [result] r' :=
  (r.verifyScenario_run feature scenario).resolve_left fun ⟨step, hstep, _, hfail, _⟩ =>
    Registry.not_matches_of_error hfail (h step hstep)

/-- Scenarios whose steps are all matched **are verified**. -/
theorem verifyScenarios_of_matches {r : Runner} {scenarios : List Scenario}
    (h : ∀ scenario ∈ scenarios, ∀ step ∈ scenario.steps, r.registry.Matches step) (feature : Text) :
    ∃ results r', verifyScenarios feature r scenarios = (.ok results, r') ∧
      r.Ran scenarios results r' := by
  refine (verifyScenarios_run feature scenarios r).resolve_left ?_
  rintro ⟨step, hstep, failure, hfail, -⟩
  obtain ⟨scenario, hscenario, hstep⟩ := List.mem_flatMap.mp hstep
  exact Registry.not_matches_of_error hfail (h scenario hscenario step hstep)

/-- Documents whose steps are all matched **are verified**. -/
theorem verifyDocuments_of_matches {r : Runner} {documents : List Document}
    (h : ∀ scenario ∈ documents.flatMap Document.scenarios, ∀ step ∈ scenario.steps,
      r.registry.Matches step) (sideBySide : Bool) :
    ∃ results r', verifyDocuments sideBySide r documents = (.ok results, r') ∧
      r.Ran (documents.flatMap Document.scenarios) results r' := by
  refine (verifyDocuments_run sideBySide documents r).resolve_left ?_
  rintro ⟨step, hstep, failure, hfail, -⟩
  obtain ⟨scenario, hscenario, hstep⟩ := List.mem_flatMap.mp hstep
  exact Registry.not_matches_of_error hfail (h scenario hscenario step hstep)

end Runner

end PlainSpec
