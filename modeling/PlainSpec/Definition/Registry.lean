import PlainSpec.Definition.Placement

/-!
# Step definitions

A step definition binds the steps that its phrase describes to a step function. A registry holds
definitions in the order of their registration. A definition with a parameter that nothing serves is kept
but never matches, and it is noted in a second list. The patterns of a definition are made when they are first
needed and kept from then on.
-/

namespace PlainSpec

/-- A **call** of a step function: its name and its arguments, `none` for a parameter left at its
default. -/
structure Call where
  function : Text
  arguments : List (Text × Option Value)
  deriving DecidableEq, Repr

/-- What a call **raises**, if anything, given the calls before it: step functions share what they act on,
so that one and the same call need not end alike twice. -/
abbrev CallOutcome := List Call → Call → Option Raised

/-- A **step function**, by what can be told of its calls: under which name they are recorded, whether
parameters left at their defaults are recorded too, and what they raise. -/
structure StepFunction where
  name : Text
  recordsDefaults : Bool
  raises : CallOutcome

/-- A step function is shown by **its name**. -/
instance : Repr StepFunction := ⟨fun f => reprPrec f.name⟩

/-- A **step definition**. The patterns are those made so far. -/
structure Definition where
  name : Text
  kind : StepKind
  parameters : List Parameter
  function : StepFunction
  /-- The type of a parameter that **nothing serves**. -/
  unsupported : Option (Option ParamType)
  patterns : Option (List LinePattern)
  deriving Repr

namespace Definition

/-- The **phrase** of a definition. -/
def phrase (d : Definition) : Text := bodyPhraseOf d.name

/-- The parameters whose values stand in the **line** of a step. -/
def inlineParameters (d : Definition) : List Parameter := d.parameters.filter (!·.isBlock)

/-- The parameters that take the **block** of a step. -/
def blockParameters (d : Definition) : List Parameter := d.parameters.filter (·.isBlock)

/-- The name of the **capture** of each inline parameter. -/
def captureNames (d : Definition) : Record := PlainSpec.captureNames d.inlineParameters

/-- Whether nothing keeps a definition from **matching**. -/
def isValid (d : Definition) : Bool := d.unsupported.isNone

/-- Why a definition **never matches**. -/
def fault? (d : Definition) : Option Failure :=
  d.unsupported.map fun type => .unsupported type (some d.name)

theorem isValid_eq_false_iff {d : Definition} : d.isValid = false ↔ d.fault?.isSome = true := by
  simp [isValid, fault?, Option.isSome_iff_ne_none]

/-- The **patterns** of a definition, and the definition that keeps them. -/
def compile (catalog : Catalog) (d : Definition) : Except Failure (List LinePattern × Definition) :=
  match d.patterns with
  | some patterns => .ok (patterns, d)
  | none =>
    match phrasePatterns catalog d.phrase d.inlineParameters with
    | .error failure => .error failure
    | .ok patterns =>
      if patterns.all fun p => p.inner.isUsable then .ok (patterns, { d with patterns := some patterns })
      else .error .unusablePattern

/-- **Record** a call with the given arguments. -/
def call (d : Definition) (arguments : List (Text × Value)) : Call :=
  ⟨d.function.name,
    if d.function.recordsDefaults then d.parameters.map fun p => (p.name, arguments.lookup p.name)
    else arguments.map fun (name, value) => (name, some value)⟩

end Definition

/-- A **registry** of step definitions, in the order of their registration. -/
structure Registry where
  catalog : Catalog
  definitions : List Definition
  /-- Where the definitions stand that were **noted as invalid**. Both lists hold the same definitions: patterns
  that a definition makes later are seen through either of them. -/
  invalidAt : List Nat

namespace Registry

/-- The registry **without definitions**. -/
def empty (catalog : Catalog) : Registry := ⟨catalog, [], []⟩

/-- The definitions that were **noted as invalid**. -/
def invalid (r : Registry) : List Definition := r.invalidAt.filterMap fun index => r.definitions[index]?

/-- **Register** a definition, and note it as invalid if it carries a fault. Without a kind the name has to tell
it. -/
def register (r : Registry) (name : Text) (kind : Option StepKind) (parameters : List Parameter)
    (function : StepFunction) : Except Failure (Definition × Registry) :=
  let kind := kind.getD (kindOfName name)
  if kind = .unclear then .error (.configuration (.unclearKind name))
  else
    let unsupported := (parameters.filter (!·.isBlock)).find? fun p => !r.catalog.handles p.type
    let d : Definition := ⟨name, kind, parameters, function, unsupported.map (·.type), none⟩
    .ok (d, { r with
      definitions := r.definitions ++ [d]
      invalidAt := if d.fault?.isSome then r.invalidAt ++ [r.definitions.length] else r.invalidAt })

/-- Register what is in each of several places **in order**. A failure ends this, but what was registered
before stays. -/
def loadEach {α : Type} (load : Registry → α → Except Failure (List Definition) × Registry) :
    Registry → List α → Except Failure (List Definition) × Registry
  | r, [] => (.ok [], r)
  | r, place :: rest =>
    match load r place with
    | (.error failure, r) => (.error failure, r)
    | (.ok definitions, r) =>
      let (others, r) := loadEach load r rest
      (others.map (definitions ++ ·), r)

/-- Add the phrase of a definition to those **of its kind**, which has to be there. -/
def addPhrase (described : List (StepKind × List Text)) (d : Definition) :
    Except Failure (List (StepKind × List Text)) :=
  if described.any fun entry => entry.1 = d.kind then
    .ok (described.map fun (kind, phrases) => (kind, if kind = d.kind then phrases ++ [d.phrase] else phrases))
  else .error (.missingKey d.kind.word)

/-- The phrases of the definitions **of each kind**, gathered in the order of the definitions. -/
def describe (r : Registry) : Except Failure (List (StepKind × List Text)) :=
  r.definitions.foldlM addPhrase (StepKind.all.map fun kind => (kind, []))

/-- The **patterns of a definition** by its position, and the registry that keeps them. -/
def patternsAt (r : Registry) (index : Nat) : Except Failure (List LinePattern × Registry) :=
  match r.definitions[index]? with
  | none => .error .noSuchLine
  | some d => (d.compile r.catalog).map fun (patterns, d) =>
    (patterns, { r with definitions := r.definitions.set index d })

/-- Add a kind of **inline values** to the catalog. -/
def addKind (r : Registry) (kind : InlineKind) (first : Bool) : Registry :=
  { r with catalog := r.catalog.add kind first }

end Registry

end PlainSpec
