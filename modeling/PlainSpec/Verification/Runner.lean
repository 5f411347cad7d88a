import PlainSpec.Binding.Basic
import PlainSpec.Log
import PlainSpec.Verification.Report

/-!
# Verification

A scenario is verified step by step. Steps that are bound are invoked until the first one that is
undefined or fails; from there on steps are still bound, so that every undefined one is reported, but they
are skipped. One scenario never keeps another one from being verified.

What a runner has learned survives a failure: its report, its results, the calls made so far and the
patterns made so far. So every operation gives its outcome together with the runner after it.

## Main results

* `ScenarioResult.status_passed_iff`: a scenario passes exactly if it has no error and no undefined step.
-/

namespace PlainSpec

/-- What **became of a step**. -/
inductive StepStatus
  | passed
  | failed (raised : Raised)
  | undefined
  | skipped
  deriving DecidableEq, Repr

namespace StepStatus

/-- The word for a status. -/
def word : StepStatus → Text
  | passed => "passed"
  | failed _ => "failed"
  | undefined => "undefined"
  | skipped => "skipped"

end StepStatus

/-- The **result of a step**. -/
structure StepResult where
  step : Step
  finding : Finding
  status : StepStatus
  deriving Repr

/-- The **result of a scenario**: those of its steps, and the step that failed with what it raised. -/
structure ScenarioResult where
  feature : Text
  scenario : Text
  steps : List StepResult
  error : Option (Step × Raised)
  deriving Repr

namespace StepResult

/-- What a step **failed with**. -/
def raised? (result : StepResult) : Option Raised :=
  match result.status with
  | .failed raised => some raised
  | _ => none

/-- Whether a step was **undefined**. -/
def isUndefined (result : StepResult) : Bool := result.status == .undefined

end StepResult

namespace ScenarioResult

/-- The result of a scenario **before its first step**. -/
def start (feature scenario : Text) : ScenarioResult := ⟨feature, scenario, [], none⟩

/-- Add the result of **one more step**. -/
def add (result : ScenarioResult) (step : StepResult) : ScenarioResult :=
  { result with steps := result.steps ++ [step] }

/-- The texts of the steps that were **undefined**. -/
def undefined (result : ScenarioResult) : List Text :=
  (result.steps.filter (·.isUndefined)).map (·.step.text)

/-- The **status** of a scenario: a failure counts more than undefined steps. -/
def status (result : ScenarioResult) : StepStatus :=
  match result.error with
  | some (_, raised) => .failed raised
  | none => if result.undefined.isEmpty then .passed else .undefined

theorem status_passed_iff (result : ScenarioResult) :
    result.status = .passed ↔ result.error = none ∧ result.undefined = [] := by
  unfold status
  cases result.error with
  | some found => simp
  | none => by_cases h : result.undefined.isEmpty <;> simp_all

end ScenarioResult

/-- A **runner**: the registry and the document it works with, and what it has found and done so far. -/
structure Runner where
  registry : Registry
  document : Option Document
  report : Report
  results : List ScenarioResult
  calls : List Call
  log : List LogRecord

namespace Runner

/-- A runner that has **done nothing** yet. -/
def start (registry : Registry) (document : Option Document) : Runner :=
  ⟨registry, document, .empty, [], [], []⟩

/-- The name of the feature of the document. -/
def featureName (r : Runner) : Text := r.document.elim [] Document.featureName

/-- Write a **log record**. -/
def logged (r : Runner) (severity : Severity) (message : Text) : Runner :=
  { r with log := r.log ++ [⟨severity, message⟩] }

/-- Note the **call** that was made, if one was made. -/
def noteCall (r : Runner) (call : Option Call) : Runner := { r with calls := r.calls ++ call.toList }

/-- Note an **undefined** step. -/
def noteUndefined (r : Runner) (scenario : Text) (step : Step) (closest : Option Text) : Runner :=
  { r.logged .warning ("Undefined step: " ++ step.text) with
    report := r.report.addUndefined scenario step closest }

/-- Note a step that **failed**. -/
def noteFailure (r : Runner) (scenario : Text) (step : Step) (raised : Raised) : Runner :=
  { r.logged .error ("Step failed: " ++ (Failure.invocation step.text raised).message) with
    report := r.report.addFailure scenario step raised }

/-- **Invoke** a binding on a step. -/
def invoke (r : Runner) (binding : Binding) (step : Step) : Option Raised × Runner :=
  let (call, raised) := binding.invoke r.calls step.block
  (raised, r.noteCall call)

/-- **Verify a step** of a scenario, whose result so far is given; the step is not invoked once the scenario is
broken. Besides the result this tells whether the scenario is broken now. -/
def verifyStep (r : Runner) (broken : Bool) (result : ScenarioResult) (step : Step) :
    Except Failure (Bool × ScenarioResult) × Runner :=
  let (found, registry) := r.registry.bind step
  let r := { r with registry }
  match found with
  | .error failure => (.error failure, r)
  | .ok (.undefined closest) =>
    (.ok (true, result.add ⟨step, .undefined closest, .undefined⟩), r.noteUndefined result.scenario step closest)
  | .ok (.bound binding) =>
    if broken then (.ok (true, result.add ⟨step, .bound binding, .skipped⟩), r)
    else match r.invoke binding step with
      | (none, r) => (.ok (false, result.add ⟨step, .bound binding, .passed⟩), r)
      | (some raised, r) =>
        let result := { result with error := some (step, raised) }
        (.ok (true, result.add ⟨step, .bound binding, .failed raised⟩),
          r.noteFailure result.scenario step raised)

/-- **Verify the steps** of a scenario in order. -/
def verifySteps : Bool → ScenarioResult → Runner → List Step → Except Failure ScenarioResult × Runner
  | _, result, r, [] => (.ok result, r)
  | broken, result, r, step :: rest =>
    match r.verifyStep broken result step with
    | (.error failure, r) => (.error failure, r)
    | (.ok (broken, result), r) => verifySteps broken result r rest

/-- **Verify a scenario** of a feature. -/
def verifyScenario (r : Runner) (feature : Text) (scenario : Scenario) :
    Except Failure ScenarioResult × Runner :=
  match verifySteps false (.start feature scenario.name) r scenario.steps with
  | (.error failure, r) => (.error failure, r)
  | (.ok result, r) => (.ok result, { r with results := r.results ++ [result] })

/-- Verify scenarios **in order**. -/
def verifyScenarios (feature : Text) : Runner → List Scenario →
    Except Failure (List ScenarioResult) × Runner
  | r, [] => (.ok [], r)
  | r, scenario :: rest =>
    match r.verifyScenario feature scenario with
    | (.error failure, r) => (.error failure, r)
    | (.ok result, r) =>
      let (results, r) := verifyScenarios feature r rest
      (results.map (result :: ·), r)

/-- Verify **one scenario** of the runner's document; it fails unless the scenario passes. -/
def verify (r : Runner) (name : Text) : Except Failure ScenarioResult × Runner :=
  match r.document with
  | none => (.error .noDocument, r)
  | some document =>
    match document.scenario? name with
    | none => (.error (.missingKey name), r)
    | some scenario =>
      match r.verifyScenario r.featureName scenario with
      | (.error failure, r) => (.error failure, r)
      | (.ok result, r) =>
        match result.error with
        | some (step, raised) => (.error (.invocation step.text raised), r)
        | none => (if result.undefined.isEmpty then .ok result else .error (.undefinedSteps result.undefined), r)

/-- Verify **all scenarios** of a document, or else of the runner's own. -/
def verifyDocument (r : Runner) (document : Option Document) :
    Except Failure (List ScenarioResult) × Runner :=
  match document <|> r.document with
  | none => (.error .noDocument, r)
  | some document => verifyScenarios document.featureName r document.scenarios

/-- Verify **documents**. If they are verified one by one, a document that cannot be matched ends the
verification; side by side, the other documents are verified all the same. -/
def verifyDocuments (sideBySide : Bool) : Runner → List Document →
    Except Failure (List ScenarioResult) × Runner
  | r, [] => (.ok [], r)
  | r, document :: rest =>
    match r.verifyDocument (some document) with
    | (.error failure, r) =>
      (.error failure, if sideBySide then (verifyDocuments sideBySide r rest).2 else r)
    | (.ok results, r) =>
      let (others, r) := verifyDocuments sideBySide r rest
      (others.map (results ++ ·), r)

/-- The texts of all **undefined steps** in the results. -/
def undefinedSteps (r : Runner) : List Text := r.results.flatMap ScenarioResult.undefined

/-- The **report**, which is logged; if it is to be strict, undefined steps are a failure. -/
def reportUndefined (r : Runner) (strict : Bool) : Except Failure Text × Runner :=
  let text := r.report.toText
  let r := r.logged (if r.report.passed then .info else .warning) text
  (if strict && !r.report.undefined.isEmpty then .error (.undefinedSteps r.undefinedSteps) else .ok text, r)

end Runner

end PlainSpec
