import PlainSpec.Block.Basic
import PlainSpec.Specification.Fault
import PlainSpec.Text.Blank

/-!
# Reading blocks

A form line is a name and a value, each after a colon. A grid line is a row of cells between pipes, where
a pipe inside a cell is escaped by a backslash. A form is a run of form lines; a grid is a run of at least
two grid lines of which the first is the header.
-/

namespace PlainSpec

/-- The **field** that a line holds. A name of white space alone keeps its last character; a value does
not reach over a line feed. -/
def formField? : Text → Option (Text × Text)
  | ':' :: rest =>
    let segment := rest.takeWhile (· != ':')
    match rest.drop segment.length, segment.getLast? with
    | ':' :: after, some last =>
      let name := Text.trim segment
      let value := Text.trim after
      if value.contains '\n' then none
      else some (if name.isEmpty then [last] else name, value)
    | _, _ => none
  | _ => none

/-- Whether a line **holds a field**. -/
def isFormLine (line : Text) : Bool := (formField? line).isSome

/-- What stands between the **outer pipes** of a line, which a line feed may follow. -/
def gridContent? : Text → Option Text
  | '|' :: rest =>
    let inner := if rest.getLast? = some '\n' then rest.dropLast else rest
    if inner.getLast? = some '|' && !inner.contains '\n' then some inner.dropLast else none
  | _ => none

/-- Whether a line is a **row of cells**. -/
def isGridLine (line : Text) : Bool := (gridContent? line).isSome

/-- Cut at the pipes that **no backslash** stands in front of; `escaped` tells whether one stands in
front of the text. -/
def splitPipes (escaped : Bool) : Text → List Text
  | [] => [[]]
  | c :: rest =>
    if c = '|' && !escaped then [] :: splitPipes false rest
    else Text.consHead c (splitPipes (c == '\\') rest)

/-- Replace every escaped pipe by a **pipe**. -/
def unescapePipes : Text → Text
  | [] => []
  | '\\' :: '|' :: rest => '|' :: unescapePipes rest
  | c :: rest => c :: unescapePipes rest

/-- The **cells** of a row, trimmed. -/
def gridCells? (line : Text) : Option (List Text) :=
  (gridContent? line).map fun content =>
    (splitPipes false content).map fun cell => unescapePipes (Text.trim cell)

/-- The cells of a row, or the fault that the line **is none**. -/
def gridCells (line : Text) : Except SpecFault (List Text) :=
  match gridCells? line with
  | some cells => .ok cells
  | none => .error (.notGridRow line)

/-- Read the **form lines** that a list of lines begins with. -/
def Form.read : List Text → List (Text × Text)
  | [] => []
  | line :: rest =>
    match formField? line with
    | some field => field :: Form.read rest
    | none => []

/-- Read the **rows** that a list of lines begins with; all have to be as wide as the header. -/
def Grid.readRows (width : Nat) : List Text → Except SpecFault (List (List Text))
  | [] => .ok []
  | line :: rest =>
    match gridCells? line with
    | none => .ok []
    | some cells =>
      if cells.length = width then (Grid.readRows width rest).map (cells :: ·)
      else .error (.raggedRow cells.length width line)

/-- Read a **grid** from its header and the lines after it. -/
def Grid.read (header : Text) (following : List Text) : Except SpecFault Grid := do
  let header ← gridCells header
  let rows ← Grid.readRows header.length following
  return ⟨header, rows⟩

namespace Block

/-- Whether a **form** comes next. -/
def formNext : List Text → Bool
  | line :: _ => isFormLine line
  | [] => false

/-- Whether a **grid** comes next: a header and at least one row. -/
def gridNext : List Text → Bool
  | header :: row :: _ => isGridLine header && isGridLine row
  | _ => false

/-- Read the **block** that a list of lines begins with, if one comes next. -/
def read? (lines : List Text) : Except SpecFault (Option Block) :=
  if formNext lines then .ok (some (.form ⟨Form.read lines⟩))
  else match lines with
    | header :: following =>
      if gridNext lines then (Grid.read header following).map fun g => some (.grid g) else .ok none
    | [] => .ok none

end Block

/-! ### Positions -/

/-- The lines **from a position** on; a negative position counts from the end. -/
def linesFrom (lines : List Text) (position : Int) : List Text :=
  if 0 ≤ position then lines.drop position.toNat
  else lines.drop (lines.length - (-position).toNat)

/-- The line **at a position**; a negative position counts from the end. -/
def lineAt? (lines : List Text) (position : Int) : Option Text :=
  if 0 ≤ position then lines[position.toNat]?
  else if (-position).toNat ≤ lines.length then lines[lines.length - (-position).toNat]?
  else none

end PlainSpec
