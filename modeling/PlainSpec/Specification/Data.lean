import PlainSpec.Data.Basic
import PlainSpec.Specification.Document

/-!
# Documents as data

A document as a tree of data, to be printed or stored. A step gives its kind, its text and its block.
-/

namespace PlainSpec

/-- A list of **texts** as data. -/
def Datum.texts (ts : List Text) : Datum := .list (ts.map .text)

/-- A **record** as data. -/
def Record.toData (record : Record) : Datum := .record (record.map fun (name, value) => (name, .text value))

/-- The entry for a **block**. -/
def Block.toEntry : Block → Text × Datum
  | form f => ("form", .list (f.fields.map fun (name, value) => Datum.texts [name, value]))
  | grid g =>
    ("grid", .record [("header", Datum.texts g.header), ("rows", .list (g.rows.map Datum.texts))])

/-- A **step** as data. -/
def Step.toData (step : Step) : Datum :=
  .record (("type", .text step.kind.word) :: ("text", .text step.text) ::
    (step.block.map Block.toEntry).toList)

/-- A **scenario** as data. -/
def Scenario.toData (scenario : Scenario) : Datum :=
  .record [("name", .text scenario.name), ("steps", .list (scenario.steps.map Step.toData))]

/-- A **feature** as data. -/
def Feature.toData (feature : Feature) : Datum :=
  .record [("name", .text feature.name), ("description", .text feature.description),
    ("headers", feature.headers.toData)]

/-- A **document** as data. -/
def Document.toData (document : Document) : Datum :=
  let feature : List (Text × Datum) :=
    match document.feature with
    | some feature => [("feature", feature.toData)]
    | none => []
  let scenarios : Text × Datum := ("scenarios", .list (document.scenarios.map Scenario.toData))
  .record (("language", .text document.language) :: (feature ++ [scenarios]))

end PlainSpec
