import PlainSpec.Failure
import PlainSpec.Verification.Suggestion

/-!
# Reports

A report collects the steps that failed and the steps that nothing recognised, each with its scenario, in
the order in which they were found.

## Main results

* `Report.passed_iff`: a report says that all is well exactly if it is empty.
-/

namespace PlainSpec

/-- A step that **failed**, and what was raised. -/
structure StepFailure where
  scenario : Text
  step : Text
  raised : Raised
  deriving DecidableEq, Repr

/-- A step that **nothing recognised**, and the phrase that is closest to it. -/
structure UndefinedStep where
  scenario : Text
  step : Step
  closest : Option Text
  deriving DecidableEq, Repr

/-- A **report**. -/
structure Report where
  failures : List StepFailure
  undefined : List UndefinedStep
  deriving DecidableEq, Repr

namespace Report

/-- The report of **nothing**. -/
def empty : Report := ⟨[], []⟩

/-- Whether there is **nothing to report**. -/
def passed (report : Report) : Bool := report.undefined.isEmpty && report.failures.isEmpty

theorem passed_iff (report : Report) : report.passed = true ↔ report = empty := by
  obtain ⟨failures, undefined⟩ := report
  simp [passed, empty, and_comm]

/-- Add a step that **failed**. -/
def addFailure (report : Report) (scenario : Text) (step : Step) (raised : Raised) : Report :=
  { report with failures := report.failures ++ [⟨scenario, step.text, raised⟩] }

/-- Add a step that **nothing recognised**. -/
def addUndefined (report : Report) (scenario : Text) (step : Step) (closest : Option Text) : Report :=
  { report with undefined := report.undefined ++ [⟨scenario, step, closest⟩] }

/-! ### Writing -/

/-- A step **in its scenario**. -/
def stepLine (scenario step : Text) : Text := "  [" ++ scenario ++ "] " ++ step

/-- The lines on the steps that **failed**. -/
def failureLines (report : Report) : List Text :=
  if report.failures.isEmpty then []
  else (Text.ofNat report.failures.length ++ " step(s) failed:") ::
    report.failures.flatMap fun failure =>
      [stepLine failure.scenario failure.step,
        "      " ++ failure.raised.kind ++ ": " ++ failure.raised.text]

/-- The lines on the steps that **nothing recognised**. -/
def undefinedLines (report : Report) : List Text :=
  (Text.ofNat report.undefined.length ++ " undefined step(s):") ::
    report.undefined.flatMap fun undefined =>
      stepLine undefined.scenario undefined.step.text ::
        match undefined.closest with
        | some phrase => if phrase.isEmpty then [] else ["      closest definition: " ++ phrase]
        | none => []

/-- The suggestions, each **once**. -/
def suggestions (report : Report) : List Text :=
  (report.undefined.map fun undefined => suggestion undefined.step).foldl
    (fun seen s => if seen.contains s then seen else seen ++ [s]) []

/-- The lines with what **can be done** about undefined steps. -/
def suggestionLines (report : Report) : List Text :=
  [] :: "You can implement the undefined steps with:" :: report.suggestions.flatMap fun s => [[], s]

/-- A report **as a text**. -/
def toText (report : Report) : Text :=
  if report.passed then "All steps are defined and passed."
  else
    let failures := report.failureLines
    let undefined :=
      if report.undefined.isEmpty then []
      else (if failures.isEmpty then [] else [[]]) ++ report.undefinedLines ++ report.suggestionLines
    Text.join "\n" (failures ++ undefined)

end Report

end PlainSpec
