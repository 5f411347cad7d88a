import PlainSpec.Specification.Document
import PlainSpec.Specification.Lines
import PlainSpec.Block.Reader

/-!
# Reading documents

A document is read line by line. What a line means depends on the part of the document that is being
read: its opening, the description of its feature, or a scenario.
-/

namespace PlainSpec

/-- The **part** of a document that is being read. A description has its lines so far; a scenario has its
steps so far, and the kind of the last one. -/
inductive Part
  | opening
  | description (feature : Text) (lines : List Text)
  | scenario (current : Scenario) (last : Option StepKind)
  deriving DecidableEq, Repr

/-- A document **as far as it has been read**: the feature once its description is complete, the named
headers, and the scenarios that are complete. -/
structure Reading where
  feature : Option Feature
  headers : Record
  scenarios : List Scenario
  part : Part
  deriving DecidableEq, Repr

namespace Reading

/-- **Nothing** has been read. -/
def start : Reading := ⟨none, [], [], .opening⟩

/-- **Complete** the part that is being read. -/
def close (r : Reading) : Reading :=
  match r.part with
  | .opening => r
  | .description name lines =>
    { r with feature := some ⟨name, Text.join "\n" lines, r.headers⟩, part := .opening }
  | .scenario current _ => { r with scenarios := r.scenarios ++ [current], part := .opening }

/-- Whether a **feature** has been opened. -/
def hasFeature (r : Reading) : Bool :=
  match r.part with
  | .description _ _ => true
  | _ => r.feature.isSome

/-- Open a **scenario**. -/
def openScenario (r : Reading) (name : Text) : Reading :=
  { r.close with part := .scenario ⟨name, []⟩ none }

/-- Open a **feature**, unless there is one. -/
def openFeature (r : Reading) (name : Text) : Except SpecFault Reading :=
  if r.hasFeature then .error (.secondFeature name)
  else .ok { r.close with part := .description name [] }

/-- Take up a **named header**; of several with one name the last one counts. -/
def addHeader (r : Reading) (header : Text × Text) : Reading :=
  { r with headers := Entries.put header.1 header.2 r.headers }

/-- The kinds of steps and the keywords that **announce** them. -/
def stepKeywords : List (StepKind × Keyword) :=
  [(.context, .given), (.action, .when), (.outcome, .thus)]

/-- The kind and the keyword of a **step line**. A line that continues needs a step to go on from. -/
def classify (language : Language) (last : Option StepKind) (line : Text) :
    Except SpecFault (StepKind × Text) :=
  let announced := stepKeywords.findSome? fun (kind, keyword) =>
    (stepKeyword? (language.spellings keyword) line).map fun word => (kind, word)
  match announced with
  | some found => .ok found
  | none =>
    match stepKeyword? (language.spellings .also) line, last with
    | some word, some kind => .ok (kind, word)
    | some _, none => .error (.leadingAnd line)
    | none, _ => .error (.unrecognised line)

/-- The kind of the last step of the scenario that is being read. -/
def lastKind (r : Reading) : Option StepKind :=
  match r.part with
  | .scenario _ last => last
  | _ => none

/-- Take up a **step** and the block under it, and tell how many lines the block has. -/
def addStep (language : Language) (r : Reading) (line : Text) (following : List Text) :
    Except SpecFault (Reading × Nat) := do
  let (kind, keyword) ← classify language r.lastKind line
  match r.part with
  | .scenario current _ =>
    let block ← Block.read? following
    let step : Step := ⟨kind, line, keyword, block⟩
    let current := { current with steps := current.steps ++ [step] }
    return ({ r with part := .scenario current (some kind) }, block.elim 0 Block.size)
  | _ => throw (.stepOutsideScenario line)

/-- Take up **one line** that belongs to no block, and tell how many of the following lines it takes with
it. -/
def addLine (language : Language) (r : Reading) (line : Text) (following : List Text) :
    Except SpecFault (Reading × Nat) :=
  match r.part with
  | .description name lines =>
    match title? (language.spellings .scenario) line, namedHeader? line with
    | some title, _ => .ok (r.openScenario title, 0)
    | none, some header => .ok (r.addHeader header, 0)
    | none, none => .ok ({ r with part := .description name (lines ++ [line]) }, 0)
  | part =>
    match title? (language.spellings .feature) line, title? (language.spellings .scenario) line with
    | some title, _ => (r.openFeature title).map (·, 0)
    | none, some title => .ok (r.openScenario title, 0)
    | none, none =>
      match part, namedHeader? line with
      | .opening, some header => .ok (r.addHeader header, 0)
      | _, _ => addStep language r line following

/-- Take up **all lines** after so many that belong to a block. -/
def addLines (language : Language) (r : Reading) : Nat → List Text → Except SpecFault Reading
  | _, [] => .ok r
  | skip + 1, _ :: rest => addLines language r skip rest
  | 0, line :: rest =>
    match addLine language r line rest with
    | .ok (r, skip) => addLines language r skip rest
    | .error fault => .error fault

/-- The **document** that has been read. -/
def document (r : Reading) (language : Text) : Document :=
  ⟨language, r.close.feature, r.close.scenarios⟩

end Reading

/-- Read the **document** that lines spell in a language. -/
def Document.ofLines (language : Language) (lines : List Text) : Except SpecFault Document :=
  (Reading.start.addLines language 0 lines).map (·.document language.code)

end PlainSpec
