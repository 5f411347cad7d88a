import PlainSpec.Proofs.VerificationRun

/-!
# What a runner keeps

A runner keeps two records of what it does: the results of the scenarios that it has verified, and a report
on the steps that failed or were undefined. This module shows that the two say the same in every state that
a runner can be brought to. It may be asked for anything in any order, and what it is asked for may fail;
only looking a step up must not.

An action adds results at the end of the one record and their entries at the end of the other
(`Runner.act_run`). That the records agree is an invariant of a single action, and so of every run.

## Main results

* `Runner.reachable_agrees`: in every state that can be reached, the report and the results agree.
-/

namespace PlainSpec

/-- What a runner can be **asked for**. -/
inductive RunnerAction
  | verify (name : Text)
  | verifyDocument (document : Option Document)
  | verifyDocuments (documents : List Document)
  | report (strict : Bool)

namespace Runner

/-- The runner **after an action**, whether the action fails or not. -/
def act (r : Runner) : RunnerAction → Runner
  | .verify name => (r.verify name).2
  | .verifyDocument document => (r.verifyDocument document).2
  | .verifyDocuments documents => (verifyDocuments false r documents).2
  | .report strict => (r.reportUndefined strict).2

/-- The scenarios that an action **is about**. -/
def scenariosOf (r : Runner) : RunnerAction → List Scenario
  | .verify name => (r.document.bind (·.scenario? name)).toList
  | .verifyDocument document => (document <|> r.document).elim [] Document.scenarios
  | .verifyDocuments documents => documents.flatMap Document.scenarios
  | .report _ => []

/-- The states that a runner can **reach** by actions in which no look-up of a step fails. -/
inductive Reachable (registry : Registry) (document : Option Document) : Runner → Prop
  | start : Reachable registry document (Runner.start registry document)
  | act {r : Runner} (action : RunnerAction) : Reachable registry document r →
      (∀ scenario ∈ r.scenariosOf action, ∀ step ∈ scenario.steps, r.registry.Matches step) →
      Reachable registry document (r.act action)

/-- The two records of a runner **agree**. The error of each scenario is that of the step that failed. The report
lists the steps that failed and those that were undefined, scenario by scenario and step by step; it is empty
exactly if all scenarios passed; and if it is to be strict, it fails exactly if some step was undefined, with the
texts of all of these. -/
structure Agrees (r : Runner) : Prop where
  errors : ∀ result ∈ r.results, result.Aligned
  failures : r.report.failures = r.results.flatMap ScenarioResult.failures
  undefined : r.report.undefined = r.results.flatMap ScenarioResult.undefinedSteps
  passed : r.report.passed = true ↔ ∀ result ∈ r.results, result.status = .passed
  strict : (∃ failure, (r.reportUndefined true).1 = .error failure) ↔
    ∃ result ∈ r.results, ∃ x ∈ result.steps, x.status = .undefined
  listed : ∀ failure, (r.reportUndefined true).1 = .error failure →
    failure = .undefinedSteps
      ((r.results.flatMap (·.steps)).filter (·.status = .undefined) |>.map (·.step.text))

end Runner

/-! ### Entries of a scenario -/

namespace ScenarioResult

/-- A scenario has entries on steps that failed exactly if one of them **failed**. -/
theorem failures_ne_nil_iff {result : ScenarioResult} :
    result.failures ≠ [] ↔ ∃ x ∈ result.steps, ∃ raised, x.status = .failed raised := by
  rw [failures, ne_eq, List.filterMap_eq_nil_iff]
  constructor
  · intro h
    push Not at h
    obtain ⟨x, hx, hentry⟩ := h
    refine ⟨x, hx, ?_⟩
    unfold StepResult.failureIn? StepResult.raised? at hentry
    split at hentry
    · next raised hs => exact ⟨raised, hs⟩
    · exact absurd rfl hentry
  · rintro ⟨x, hx, raised, hs⟩ h
    exact absurd (h x hx) (by simp [StepResult.failureIn?, StepResult.raised?, hs])

/-- A scenario has entries on undefined steps exactly if one of them **was undefined**. -/
theorem undefinedSteps_ne_nil_iff {result : ScenarioResult} :
    result.undefinedSteps ≠ [] ↔ ∃ x ∈ result.steps, x.status = .undefined := by
  simp [undefinedSteps, StepResult.undefinedIn?]

/-- A scenario **passed** exactly if it has no entries. -/
theorem Aligned.status_passed_iff_no_entries {result : ScenarioResult} (h : result.Aligned) :
    result.status = .passed ↔ result.undefinedSteps = [] ∧ result.failures = [] := by
  rw [h.status_passed_iff_no_break, ← not_ne_iff, ← not_ne_iff (a := result.failures),
    undefinedSteps_ne_nil_iff, failures_ne_nil_iff]
  constructor
  · intro h
    exact ⟨fun ⟨x, hx, hu⟩ => h x hx (.inl hu), fun ⟨x, hx, hf⟩ => h x hx (.inr hf)⟩
  · rintro ⟨hundefined, hfailed⟩ x hx (hu | hf)
    · exact hundefined ⟨x, hx, hu⟩
    · exact hfailed ⟨x, hx, hf⟩

end ScenarioResult

namespace Runner

/-! ### One action -/

/-- Writing **log records** verifies nothing. -/
theorem ran_logged (r : Runner) (severity : Severity) (message : Text) :
    r.Ran [] [] (r.logged severity message) := by
  obtain ⟨-, findings, -, -, -, -, -, -⟩ := Ran.refl r
  exact ⟨.nil, findings, ⟨[], .done, (List.append_nil _).symm⟩, (List.append_nil _).symm,
    (List.append_nil _).symm, (List.append_nil _).symm, rfl, .refl _⟩

/-- Verifying a scenario by its name leaves the runner as **verifying the scenario** does. -/
theorem verify_snd (r : Runner) (name : Text) :
    (r.verify name).2 = (r.document.bind (·.scenario? name)).elim r
      fun scenario => (r.verifyScenario r.featureName scenario).2 := by
  unfold verify
  cases r.document with
  | none => rfl
  | some document =>
      simp only [Option.bind_some]
      cases document.scenario? name with
      | none => rfl
      | some scenario =>
          simp only [Option.elim_some]
          rcases r.verifyScenario r.featureName scenario with ⟨failure | result, r'⟩
          · rfl
          · simp only
            cases result.error <;> rfl

/-- **An action verifies the scenarios that it is about**, and changes nothing else in what a runner
keeps. -/
theorem act_run {r : Runner} {action : RunnerAction}
    (h : ∀ scenario ∈ r.scenariosOf action, ∀ step ∈ scenario.steps, r.registry.Matches step) :
    ∃ results, r.Ran (r.scenariosOf action) results (r.act action) := by
  cases action with
  | verify name =>
      rw [act, verify_snd]
      rw [scenariosOf] at h ⊢
      cases hscenario : r.document.bind (·.scenario? name) with
      | none => exact ⟨[], .refl r⟩
      | some scenario =>
          rw [hscenario] at h
          obtain ⟨result, r', hrun, hran⟩ :=
            verifyScenario_of_matches (h scenario List.mem_cons_self) r.featureName
          rw [Option.elim_some, hrun]
          exact ⟨[result], hran⟩
  | verifyDocument document =>
      rw [act, verifyDocument]
      rw [scenariosOf] at h ⊢
      cases hdocument : document <|> r.document with
      | none => exact ⟨[], .refl r⟩
      | some document =>
          rw [hdocument] at h
          have hscenarios : ∀ scenario ∈ document.scenarios, ∀ step ∈ scenario.steps,
              r.registry.Matches step := h
          obtain ⟨results, r', hrun, hran⟩ :=
            verifyScenarios_of_matches hscenarios document.featureName
          exact ⟨results, by simpa only [hrun, Option.elim_some] using hran⟩
  | verifyDocuments documents =>
      obtain ⟨results, r', hrun, hran⟩ := verifyDocuments_of_matches h false
      rw [act, hrun]
      exact ⟨results, hran⟩
  | report strict => exact ⟨[], r.ran_logged _ _⟩

/-! ### Every state -/

/-- The report has **an entry for each step** that failed or was undefined, the results have the same steps, and
their errors are those of the steps that failed. -/
structure Tallies (r : Runner) : Prop where
  errors : ∀ result ∈ r.results, result.Aligned
  failures : r.report.failures = r.results.flatMap ScenarioResult.failures
  undefined : r.report.undefined = r.results.flatMap ScenarioResult.undefinedSteps

/-- Verifying scenarios adds **the same to both records**. -/
theorem Tallies.of_ran {r r' : Runner} {scenarios : List Scenario} {results : List ScenarioResult}
    (h : r.Tallies) (hran : r.Ran scenarios results r') : r'.Tallies where
  errors := by
    rw [hran.recorded]
    refine List.forall_mem_append.mpr ⟨h.errors, fun result hresult => ?_⟩
    obtain ⟨_, hof⟩ := hran.exists_of hresult
    exact hof.aligned
  failures := by rw [hran.failures, h.failures, hran.recorded, List.flatMap_append]
  undefined := by rw [hran.undefined, h.undefined, hran.recorded, List.flatMap_append]

/-- In every state that can be reached **the records tally**. -/
theorem Reachable.tallies {registry : Registry} {document : Option Document} {r : Runner}
    (h : Reachable registry document r) : r.Tallies := by
  induction h with
  | start => exact ⟨fun _ hresult => absurd hresult List.not_mem_nil, rfl, rfl⟩
  | act action _ hmatches ih =>
      obtain ⟨results, hran⟩ := act_run hmatches
      exact ih.of_ran hran

/-- A report that tallies with the results is empty exactly if **all scenarios passed**. -/
theorem Tallies.passed_iff {r : Runner} (h : r.Tallies) :
    r.report.passed = true ↔ ∀ result ∈ r.results, result.status = .passed := by
  simp only [Report.passed, Bool.and_eq_true, List.isEmpty_iff, h.failures, h.undefined,
    List.flatMap_eq_nil_iff, ← forall_and]
  exact forall₂_congr fun result hresult => (h.errors result hresult).status_passed_iff_no_entries.symm

/-- The texts of the undefined steps are those of the **recorded steps** that were undefined. -/
theorem undefinedSteps_eq (r : Runner) :
    r.undefinedSteps =
      ((r.results.flatMap (·.steps)).filter (·.status = .undefined)).map (·.step.text) := by
  rw [undefinedSteps, List.filter_flatMap, List.map_flatMap]
  rfl

/-- A strict report fails exactly **if it has undefined steps**. -/
theorem reportUndefined_strict (r : Runner) :
    (r.reportUndefined true).1 =
      if r.report.undefined.isEmpty then .ok r.report.toText
      else .error (.undefinedSteps r.undefinedSteps) := by
  simp only [reportUndefined, undefinedSteps, logged, Bool.true_and]
  cases r.report.undefined.isEmpty <;> rfl

/-- **The records of a runner agree in every state that it can reach.** Whatever it was asked for, and
whatever became of that: the report lists exactly the steps that failed and those that were undefined, it is
empty exactly if all scenarios passed, and to be strict is to fail on recorded undefined steps. -/
theorem reachable_agrees {registry : Registry} {document : Option Document} {r : Runner}
    (h : Reachable registry document r) : r.Agrees := by
  have htallies := h.tallies
  have hundefined : r.report.undefined.isEmpty = false ↔
      ∃ result ∈ r.results, ∃ x ∈ result.steps, x.status = .undefined := by
    rw [htallies.undefined, List.isEmpty_eq_false_iff, ne_eq, List.flatMap_eq_nil_iff]
    push Not
    simp only [ScenarioResult.undefinedSteps_ne_nil_iff]
  have hstrict : ∀ failure, (r.reportUndefined true).1 = .error failure ↔
      r.report.undefined.isEmpty = false ∧ .undefinedSteps r.undefinedSteps = failure := by
    intro failure
    rw [reportUndefined_strict]
    cases r.report.undefined.isEmpty <;> simp
  exact {
    errors := htallies.errors
    failures := htallies.failures
    undefined := htallies.undefined
    passed := htallies.passed_iff
    strict := by simp [hstrict, hundefined]
    listed := fun failure hfailure => by
      rw [← ((hstrict failure).mp hfailure).2, undefinedSteps_eq] }

/-- A registry with one definition, whose function **fails**. -/
def closedAccounts : Registry :=
  ⟨Catalog.standard, [⟨"given_an_account", .context, [],
    ⟨"account", false, fun _ _ => some ⟨"ValueError", some "closed"⟩⟩, none, none⟩], []⟩

/-- A scenario with a step that fails and one that **nothing recognises**. -/
def opening : Document :=
  ⟨"en", none, [⟨"Opening", [⟨.context, "Given an account", "Given", none⟩,
    ⟨.context, "And a card", "And", none⟩]⟩]⟩

/-- The runner after the scenario has been verified, which raised a failure, and after a strict report,
which did too: the two records **agree**. -/
theorem reachable_agrees_opening :
    Reachable closedAccounts (some opening)
        (((start closedAccounts (some opening)).act (.verify "Opening")).act (.report true)) ∧
      (((start closedAccounts (some opening)).act (.verify "Opening")).act (.report true)).Agrees := by
  have hverified : Reachable closedAccounts (some opening)
      ((start closedAccounts (some opening)).act (.verify "Opening")) :=
    .act _ .start (by decide +kernel)
  have hreported := Reachable.act (.report true) hverified (by simp [scenariosOf])
  exact ⟨hreported, reachable_agrees hreported⟩

end Runner

end PlainSpec
