import PlainSpec.Block.Basic
import PlainSpec.Specification.StepKind
import PlainSpec.Text.Blank

/-!
# Documents

A specification document is an optional feature and a list of scenarios, each a list of steps.
-/

namespace PlainSpec

/-- A **step**: one line of a scenario, the keyword it begins with, and the block under it. -/
structure Step where
  kind : StepKind
  text : Text
  keyword : Text
  block : Option Block
  deriving DecidableEq, Repr

/-- The text of a step **without its keyword**, which is recognised in lower case. -/
def Step.body (step : Step) : Text :=
  let lowered := Text.lower step.keyword
  if !step.keyword.isEmpty && lowered.isPrefixOf (Text.lower step.text) then
    Text.trim (step.text.drop step.keyword.length)
  else Text.trim step.text

/-- A **scenario**: a name and steps. -/
structure Scenario where
  name : Text
  steps : List Step
  deriving DecidableEq, Repr

/-- A **feature**: what the scenarios of a document are about. -/
structure Feature where
  name : Text
  description : Text
  headers : Record
  deriving DecidableEq, Repr

/-- A **specification document** in a language. -/
structure Document where
  language : Text
  feature : Option Feature
  scenarios : List Scenario
  deriving DecidableEq, Repr

/-- Whether two records hold **the same entries**, in whatever order. -/
def Record.same (a b : Record) : Bool :=
  a.length == b.length && a.all fun entry => b.lookup entry.1 == some entry.2

/-- Whether two features are the same, the **order of their headers** aside. -/
def Feature.same (a b : Feature) : Bool :=
  a.name == b.name && a.description == b.description && Record.same a.headers b.headers

namespace Document

/-- The **first scenario** with a name. -/
def scenario? (document : Document) (name : Text) : Option Scenario :=
  document.scenarios.find? (·.name == name)

/-- The names of the scenarios, in order. -/
def scenarioNames (document : Document) : List Text := document.scenarios.map (·.name)

/-- The name of the feature, **empty** if there is none. -/
def featureName (document : Document) : Text :=
  match document.feature with
  | some feature => feature.name
  | none => []

/-- Whether two documents are the same, the order of their **headers** aside. -/
def same (a b : Document) : Bool :=
  a.language == b.language && a.scenarios == b.scenarios &&
    match a.feature, b.feature with
    | none, none => true
    | some x, some y => Feature.same x y
    | _, _ => false

end Document

end PlainSpec
