import PlainSpec.Binding.Block
import PlainSpec.Similarity
import PlainSpec.Specification.Document

/-!
# Binding steps to definitions

A step is bound to the first definition of its kind that one of its patterns recognises and whose
arguments can be read from the line. A step that nothing recognises is undefined; the definition with the
most similar phrase may help to find out why.

## Main results

* `Registry.length_bind`: binding a step leaves the number of definitions alone.
-/

namespace PlainSpec

/-- A definition to which a step is **bound**, its position in the registry, and the arguments that stand
in the line of the step. -/
structure Binding where
  index : Nat
  definition : Definition
  arguments : Entries Value
  deriving Repr

/-- What is **found** for a step: a definition, or at best the phrase that is closest. -/
inductive Finding
  | bound (binding : Binding)
  | undefined (closest : Option Text)
  deriving Repr

namespace Definition

/-- The **argument** for an inline parameter. A parameter with a default may be left out. -/
def argument (catalog : Catalog) (d : Definition) (way : Way) (p : Parameter) :
    Except Failure (Option (Text × Value)) :=
  let captured := way.captured? ((d.captureNames.lookup p.name).getD [])
  if captured.isNone && p.hasDefault then .ok none
  else match catalog.convert p.type captured with
    | .ok value => .ok (some (p.name, value))
    | .error fault => .error (.ofInline fault)

/-- The **arguments** that a way of matching gives. -/
def arguments (catalog : Catalog) (d : Definition) (way : Way) : Except Failure (Entries Value) :=
  (d.inlineParameters.mapM (d.argument catalog way)).map fun found => Entries.ofPairs (found.filterMap id)

/-- The arguments that the **first pattern** gives that matches a text and whose captures have values. -/
def read (catalog : Catalog) (d : Definition) (body : Text) :
    List LinePattern → Except Failure (Option (Entries Value))
  | [] => .ok none
  | pattern :: rest =>
    match pattern.match? body with
    | none => d.read catalog body rest
    | some way =>
      match d.arguments catalog way with
      | .ok arguments => .ok (some arguments)
      | .error failure => if failure.isValueFault then d.read catalog body rest else .error failure

end Definition

/-- Find the **first definition** of a kind that reads a text, among those from a position on. The
definitions keep the patterns that had to be made. -/
def bindAmong (catalog : Catalog) (kind : StepKind) (body : Text) :
    Nat → List Definition → Except Failure (Option Binding) × List Definition
  | _, [] => (.ok none, [])
  | position, d :: rest =>
    if d.kind = kind && d.isValid then
      match d.compile catalog with
      | .error failure => (.error failure, d :: rest)
      | .ok (patterns, d) =>
        match d.read catalog body patterns with
        | .error failure => (.error failure, d :: rest)
        | .ok (some arguments) => (.ok (some ⟨position, d, arguments⟩), d :: rest)
        | .ok none =>
          let (found, rest) := bindAmong catalog kind body (position + 1) rest
          (found, d :: rest)
    else
      let (found, rest) := bindAmong catalog kind body (position + 1) rest
      (found, d :: rest)

theorem length_bindAmong (catalog : Catalog) (kind : StepKind) (body : Text) (ds : List Definition) :
    ∀ position, (bindAmong catalog kind body position ds).2.length = ds.length := by
  induction ds with
  | nil => intro position; rfl
  | cons d rest ih =>
    intro position
    unfold bindAmong
    split
    · split
      · rfl
      · split <;> simp [ih]
    · simp [ih]

namespace Registry

/-- The definitions of a **kind**. -/
def ofKind (r : Registry) (kind : StepKind) : List Definition := r.definitions.filter (·.kind = kind)

/-- The **phrase closest** to a step: of a definition of its kind, or of any if its kind has none. -/
def closestPhrase (r : Registry) (step : Step) : Option Text :=
  let candidates := match r.ofKind step.kind with
    | [] => r.definitions
    | candidates => candidates
  (Similarity.mostAlike? Definition.phrase (Text.lower step.body) candidates).map Definition.phrase

/-- **Bind** a step. -/
def bind (r : Registry) (step : Step) : Except Failure Finding × Registry :=
  let (found, definitions) := bindAmong r.catalog step.kind step.body 0 r.definitions
  (found.map fun binding =>
    match binding with
    | some binding => .bound binding
    | none => .undefined (r.closestPhrase step), { r with definitions })

theorem length_bind (r : Registry) (step : Step) :
    (r.bind step).2.definitions.length = r.definitions.length :=
  length_bindAmong r.catalog step.kind step.body r.definitions 0

/-- **Bind steps** one after the other. -/
def bindAll (r : Registry) : List Step → Except Failure (List Finding) × Registry
  | [] => (.ok [], r)
  | step :: rest =>
    match r.bind step with
    | (.error failure, r) => (.error failure, r)
    | (.ok finding, r) =>
      let (findings, r) := r.bindAll rest
      (findings.map (finding :: ·), r)

end Registry

/-! ### Invoking -/

namespace Definition

/-- The arguments of a call: those in the line of a step, and its block for each parameter that **takes
it**. -/
def blockArguments (block : Option Block) (arguments : Entries Value) :
    List Parameter → Except Text (Entries Value)
  | [] => .ok arguments
  | p :: rest =>
    if block.isNone && p.hasDefault then blockArguments block arguments rest
    else match p.adapt block with
      | .ok value => blockArguments block (Entries.put p.name value arguments) rest
      | .error complaint => .error complaint

/-- **Call** the function of a definition after earlier calls: the call, and what it raised if anything. -/
def callAfter (earlier : List Call) (d : Definition) (arguments : Entries Value) :
    Option Call × Option Raised :=
  let call := d.call arguments
  (some call, d.function.raises earlier call)

/-- **Call** the function of a definition with nothing at all, which a parameter without default does not
allow. -/
def callWithout (earlier : List Call) (d : Definition) : Option Call × Option Raised :=
  if d.function.recordsDefaults && d.parameters.any (!·.hasDefault) then (none, some ⟨"TypeError", none⟩)
  else d.callAfter earlier []

end Definition

/-- **Invoke** a definition on the block of a step, after earlier calls: the call, and what was raised if
anything was. A block that does not do is raised before the call. -/
def Binding.invoke (binding : Binding) (earlier : List Call) (block : Option Block) :
    Option Call × Option Raised :=
  let d := binding.definition
  match Definition.blockArguments block binding.arguments d.blockParameters with
  | .error complaint => (none, some ⟨"TypeError", some complaint⟩)
  | .ok arguments => d.callAfter earlier arguments

end PlainSpec
