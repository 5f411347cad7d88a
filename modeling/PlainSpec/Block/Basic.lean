import PlainSpec.Entries
import PlainSpec.Text.Case

/-!
# Blocks

A step may carry a block of data: a form of named values, or a grid of rows under a header.
-/

namespace PlainSpec

/-- A **record**: texts under names. -/
abbrev Record := Entries Text

/-- A **form**: named values, in order, a name perhaps more than once. -/
structure Form where
  fields : List (Text × Text)
  deriving DecidableEq, Repr, Inhabited

/-- A **grid**: a header and rows of cells. -/
structure Grid where
  header : List Text
  rows : List (List Text)
  deriving DecidableEq, Repr, Inhabited

/-- The **data of a step**. -/
inductive Block
  | form (form : Form)
  | grid (grid : Grid)
  deriving DecidableEq, Repr

/-- The **value** of the first field with a name, compared in lower case. -/
def Form.get? (form : Form) (name : Text) : Option Text :=
  (form.fields.find? fun field => Text.lower field.1 == Text.lower name).map Prod.snd

/-- The fields of a form **as a record**. -/
def Form.toRecord (form : Form) : Record := Entries.ofPairs form.fields

/-- The cells of a row at a position, or `none` if some row is **too short**. -/
def Grid.cellsAt? (grid : Grid) (i : Nat) : Option (List Text) := grid.rows.mapM (·[i]?)

/-- The position of the first header cell with a name, compared in lower case. -/
def Grid.columnIndex? (grid : Grid) (name : Text) : Option Nat :=
  grid.header.findIdx? fun cell => Text.lower cell == Text.lower name

/-- The rows of a grid as records **from header cells to cells**; the longer of a row and the header is
cut. -/
def Grid.toRecords (grid : Grid) : List Record :=
  grid.rows.map fun row => Entries.ofPairs (grid.header.zip row)

namespace Block

/-- The number of **lines** that a block takes up. -/
def size : Block → Nat
  | form f => f.fields.length
  | grid g => g.rows.length + 1

/-- The number of **fields or data rows** of a block. -/
def length : Block → Nat
  | form f => f.fields.length
  | grid g => g.rows.length

/-- The name of the **shape** of a block. -/
def shape : Block → Text
  | form _ => "Form"
  | grid _ => "Grid"

end Block

end PlainSpec
