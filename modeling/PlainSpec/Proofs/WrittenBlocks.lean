import PlainSpec.Proofs.BlockLines
import PlainSpec.Proofs.WhiteSpace

/-!
# Written Blocks

A form is written as a line for each field, a name and a value that each stand behind a colon. A grid is
written as a line for its header and one for each row, the cells between pipes, with a backslash put in
front of every pipe inside a cell. This module shows that the reader of blocks takes such lines back, in
whatever company they stand, as long as no line of the same sort comes next.

A cell may end with a backslash. The pipe that closes the cell is not escaped by it, because a blank
always stands between them (`splitPipes_escapePipes_append`).

## Main results

* `formField?_fieldLine`: the line of a field is read as the field.
* `gridCells?_rowLine`: the line of a row is read as the row.
* `Block.read?_lines`: the lines of a block are read as the block.
-/

namespace PlainSpec

/-! ### Fields -/

/-- The line of a **field**. -/
def fieldLine (field : Text × Text) : Text := ": " ++ field.1 ++ " : " ++ field.2

/-- A field that can be **written on a line**: its name is not empty and has no colon. -/
structure TidyField (field : Text × Text) : Prop where
  name : Text.Tidy field.1
  nonempty : field.1 ≠ []
  no_colon : ':' ∉ field.1
  value : Text.Tidy field.2

/-- What stands **between the colons** of a line gives the name: trimmed, or its last character if it is white
space. -/
theorem formField?_segment {segment : Text} (hcolon : ':' ∉ segment) (after : Text) :
    formField? (':' :: (segment ++ ':' :: after)) = segment.getLast?.bind fun last =>
      if '\n' ∈ Text.trim after then none
      else some (if Text.trim segment = [] then [last] else Text.trim segment, Text.trim after) := by
  have hsegment : (segment ++ ':' :: after).takeWhile (· != ':') = segment := by
    have hall : ∀ c ∈ segment, (c != ':') = true := by
      intro c hc
      exact bne_iff_ne.mpr fun h => hcolon (h ▸ hc)
    rw [List.takeWhile_append_of_pos hall]
    simp
  simp only [formField?, hsegment, List.drop_left]
  cases segment.getLast? with
  | none => rfl
  | some last => simp

/-- The name that is **read back** from the line of a field: what is written is trimmed, and of white space one blank
is left. -/
def nameReadBack (name : Text) : Text := if Text.trim name = [] then [' '] else Text.trim name

/-- A trimmed name is **read back**. -/
theorem nameReadBack_of_trimmed {name : Text} (hname : Text.trim name = name) (hne : name ≠ []) :
    nameReadBack name = name := by
  rw [nameReadBack, hname, if_neg hne]

/-- The line of a field, **trimmed**. -/
theorem trim_fieldLine {field : Text × Text} (hvalue : Text.trim field.2 = field.2) :
    Text.trim (fieldLine field) =
      ':' :: ((' ' :: (field.1 ++ [' '])) ++ ':' :: Text.behindColon field.2) := by
  have hline : fieldLine field = ':' :: ((' ' :: (field.1 ++ [' '])) ++ ':' :: ' ' :: field.2) := by
    simp [fieldLine]
  rw [hline, Text.trim_append_value rfl _ hvalue]

/-- **The line of a field is read** as the field with the name that is read back. -/
theorem formField?_fieldLine {field : Text × Text} (hcolon : ':' ∉ field.1) (hvalue : Text.trim field.2 = field.2)
    (hfeed : '\n' ∉ field.2) : formField? (Text.trim (fieldLine field)) = some (nameReadBack field.1, field.2) := by
  have hsegment : ':' ∉ ' ' :: (field.1 ++ [' ']) := by simpa using hcolon
  have hlast : (' ' :: (field.1 ++ [' '])).getLast? = some ' ' := by rw [← List.cons_append, List.getLast?_concat]
  have htrim : Text.trim (' ' :: (field.1 ++ [' '])) = Text.trim field.1 := by
    rw [Text.trim_blank rfl, Text.trim_append_blank _ rfl]
  rw [trim_fieldLine hvalue, formField?_segment hsegment, hlast, htrim, Text.trim_behindColon hvalue,
    Option.bind_some, if_neg hfeed, nameReadBack]

/-- A tidy field is **read back from its line**. -/
theorem TidyField.formField?_fieldLine {field : Text × Text} (h : TidyField field) :
    formField? (Text.trim (fieldLine field)) = some field := by
  have hfeed : '\n' ∉ field.2 := fun hmem => absurd (h.value.unbroken _ hmem) (by decide)
  rw [PlainSpec.formField?_fieldLine h.no_colon h.value.trimmed hfeed,
    nameReadBack_of_trimmed h.name.trimmed h.nonempty]

/-! ### Rows -/

/-- A text with a backslash in front of **every pipe**. -/
def escapePipes : Text → Text
  | [] => []
  | c :: rest => if c = '|' then '\\' :: '|' :: escapePipes rest else c :: escapePipes rest

/-- The line of a **row** of cells. -/
def rowLine (cells : List Text) : Text := "| " ++ Text.join " | " (cells.map escapePipes) ++ " |"

/-- An escaped text **does not begin with a pipe**. -/
theorem head?_escapePipes_ne (t : Text) : (escapePipes t).head? ≠ some '|' := by
  cases t with
  | nil => simp [escapePipes]
  | cons c t =>
      unfold escapePipes
      split
      · simp
      · simpa

/-- **Escaping is undone.** -/
theorem unescapePipes_escapePipes (t : Text) : unescapePipes (escapePipes t) = t := by
  induction t with
  | nil => rfl
  | cons c t ih =>
      unfold escapePipes
      split
      · next hc => rw [unescapePipes, ih, hc]
      · next hc =>
        rw [unescapePipes, ih]
        -- a backslash of the text itself has no pipe behind it
        intro rest _ hrest
        exact head?_escapePipes_ne t (hrest ▸ rfl)

/-- An escaped text is **as trimmed** as the text. -/
theorem trim_escapePipes {t : Text} (ht : Text.trim t = t) :
    Text.trim (escapePipes t) = escapePipes t := by
  have hhead : ∀ c ∈ (escapePipes t).head?, isBlank c = false := by
    cases t with
    | nil => exact fun c hc => absurd hc (by simp [escapePipes])
    | cons d t =>
        intro c hc
        unfold escapePipes at hc
        split at hc
        · obtain rfl : '\\' = c := by simpa using hc
          decide
        · exact ((Text.trim_eq_self_iff _).mp ht).1 c hc
  have hlast : (escapePipes t).getLast? = t.getLast? := by
    clear ht hhead
    induction t with
    | nil => rfl
    | cons d t ih =>
        unfold escapePipes
        split
        · next hd => rw [List.getLast?_cons_cons, List.getLast?_cons, List.getLast?_cons, ih, hd]
        · rw [List.getLast?_cons, List.getLast?_cons, ih]
  exact (Text.trim_eq_self_iff _).mpr ⟨hhead, hlast ▸ ((Text.trim_eq_self_iff t).mp ht).2⟩

/-- Escaping **adds backslashes** only. -/
theorem mem_escapePipes {t : Text} {c : Char} (h : c ∈ escapePipes t) : c = '\\' ∨ c ∈ t := by
  induction t with
  | nil => exact absurd h List.not_mem_nil
  | cons d t ih =>
      unfold escapePipes at h
      split at h
      · next hd =>
        rcases List.mem_cons.mp h with hc | h
        · exact .inl hc
        · rcases List.mem_cons.mp h with rfl | h
          · exact .inr (hd ▸ List.mem_cons_self)
          · exact (ih h).imp_right (List.mem_cons_of_mem d)
      · rcases List.mem_cons.mp h with rfl | h
        · exact .inr List.mem_cons_self
        · exact (ih h).imp_right (List.mem_cons_of_mem d)

/-- The cut goes **past an escaped text** and the blank behind it, whatever it has gone past before. -/
theorem splitPipes_escapePipes_append {rest part : Text} {parts : List Text}
    (hrest : splitPipes false rest = part :: parts) (escaped : Bool) (t : Text) :
    splitPipes escaped (escapePipes t ++ ' ' :: rest) = (escapePipes t ++ ' ' :: part) :: parts := by
  induction t generalizing escaped with
  | nil => simp [escapePipes, splitPipes, hrest, Text.consHead]
  | cons c t ih =>
      unfold escapePipes
      split
      · simp [splitPipes, ih, Text.consHead]
      · next hc => simp [splitPipes, hc, ih, Text.consHead]

/-- What stands between the outer pipes is cut into **the escaped cells**, each with a blank on both
sides. -/
theorem splitPipes_join {cells : List Text} (hne : cells ≠ []) :
    splitPipes false (' ' :: (Text.join " | " (cells.map escapePipes) ++ [' '])) =
      cells.map fun cell => ' ' :: (escapePipes cell ++ [' ']) := by
  induction cells with
  | nil => exact absurd rfl hne
  | cons cell cells ih =>
      cases cells with
      | nil =>
          have hend : splitPipes false [] = [[]] := rfl
          have hcell := splitPipes_escapePipes_append hend false cell
          simp [Text.join, splitPipes, hcell, Text.consHead]
      | cons next cells =>
          have hrest : splitPipes false
              ('|' :: ' ' :: (Text.join " | " ((next :: cells).map escapePipes) ++ [' '])) =
              [] :: (next :: cells).map fun cell => ' ' :: (escapePipes cell ++ [' ']) := by
            rw [← ih (List.cons_ne_nil _ _), splitPipes]
            rfl
          have hcell := splitPipes_escapePipes_append hrest false cell
          have hjoin : Text.join " | " ((cell :: next :: cells).map escapePipes) ++ [' '] =
              escapePipes cell ++
                ' ' :: '|' :: ' ' :: (Text.join " | " ((next :: cells).map escapePipes) ++ [' ']) := by
            simp [Text.join]
          have hblank : (' ' == '\\') = false := rfl
          rw [hjoin, splitPipes, if_neg (by decide), hblank, hcell, Text.consHead]
          rfl

/-- The line of a row, character by character: a pipe, **the content** and a pipe. -/
theorem rowLine_eq (cells : List Text) :
    rowLine cells = '|' :: ((' ' :: (Text.join " | " (cells.map escapePipes) ++ [' '])) ++ ['|']) := by
  simp [rowLine]

/-- The line of a row is **trimmed**. -/
theorem trim_rowLine (cells : List Text) : Text.trim (rowLine cells) = rowLine cells := by
  rw [rowLine_eq, Text.trim_cons_append rfl _ (by decide) (List.cons_ne_nil _ _)]

/-- A character of the line of a row is **in a cell**, or it is a mark that is written around and inside of cells. -/
theorem mem_rowLine {cells : List Text} {c : Char} (h : c ∈ rowLine cells) :
    c ∈ [' ', '|', '\\'] ∨ ∃ cell ∈ cells, c ∈ cell := by
  have hmark : ∀ {marks : Text}, marks ⊆ [' ', '|', '\\'] → c ∈ marks →
      c ∈ [' ', '|', '\\'] ∨ ∃ cell ∈ cells, c ∈ cell := fun hmarks hc => .inl (hmarks hc)
  rw [rowLine, List.mem_append, List.mem_append] at h
  rcases h with (h | h) | h
  · exact hmark (by decide) h
  · rcases Text.mem_join h with h | ⟨t, ht, h⟩
    · exact hmark (by decide) h
    · obtain ⟨cell, hcell, rfl⟩ := List.mem_map.mp ht
      rcases mem_escapePipes h with rfl | h
      · exact .inl (by decide)
      · exact .inr ⟨cell, hcell, h⟩
  · exact hmark (by decide) h

/-- The line of a row of unbroken cells is **unbroken**. -/
theorem unbroken_rowLine {cells : List Text} (hcells : ∀ cell ∈ cells, Text.Unbroken cell) :
    Text.Unbroken (rowLine cells) := by
  intro c hc
  rcases mem_rowLine hc with hmark | ⟨cell, hcell, hc⟩
  · exact (by decide : Text.Unbroken [' ', '|', '\\']) c hmark
  · exact hcells cell hcell c hc

/-- A line that a pipe begins and a pipe ends is a row with **what stands between them**. -/
theorem gridContent?_eq {content : Text} (hcontent : '\n' ∉ content) :
    gridContent? ('|' :: (content ++ ['|'])) = some content := by
  simp [gridContent?, hcontent]

/-- **The line of a row is read as the row.** -/
theorem gridCells?_rowLine {cells : List Text} (hne : cells ≠ [])
    (hcells : ∀ cell ∈ cells, Text.trim cell = cell ∧ '\n' ∉ cell) : gridCells? (rowLine cells) = some cells := by
  have hfeed : '\n' ∉ rowLine cells := by
    intro h
    rcases mem_rowLine h with hmark | ⟨cell, hcell, hc⟩
    · exact absurd hmark (by decide)
    · exact (hcells cell hcell).2 hc
  rw [rowLine_eq] at hfeed ⊢
  rw [gridCells?, gridContent?_eq fun h => hfeed (List.mem_cons_of_mem _ (List.mem_append_left _ h)),
    Option.map_some, splitPipes_join hne, List.map_map]
  have hread : ∀ cell ∈ cells,
      unescapePipes (Text.trim (' ' :: (escapePipes cell ++ [' ']))) = cell := by
    intro cell hcell
    rw [Text.trim_blank rfl, Text.trim_append_blank _ rfl, trim_escapePipes (hcells cell hcell).1,
      unescapePipes_escapePipes]
  exact congrArg some ((List.map_congr_left hread).trans (List.map_id _))

/-! ### Blocks -/

/-- A form that can be **written**: it has a field, and its fields can be written. -/
structure Form.Tidy (form : Form) : Prop where
  nonempty : form.fields ≠ []
  fields : ∀ field ∈ form.fields, TidyField field

/-- A grid that can be **written**: a header that is not empty and at least one row, all as wide as the
header. -/
structure Grid.Tidy (grid : Grid) : Prop where
  header : grid.header ≠ []
  rows : grid.rows ≠ []
  width : ∀ row ∈ grid.rows, row.length = grid.header.length
  cells : ∀ row ∈ grid.header :: grid.rows, ∀ cell ∈ row, Text.Tidy cell

/-- The lines of a **form**. -/
def Form.lines (form : Form) : List Text := form.fields.map fieldLine

/-- The lines of a **grid**. -/
def Grid.lines (grid : Grid) : List Text := rowLine grid.header :: grid.rows.map rowLine

/-- The lines of a **grid** spell it, up to a line that is no row. -/
theorem Grid.spelledBy_lines {grid : Grid} (hheader : grid.header ≠ []) (hrows : grid.rows ≠ [])
    (hwidth : ∀ row ∈ grid.rows, row.length = grid.header.length)
    (hcells : ∀ row ∈ grid.header :: grid.rows, ∀ cell ∈ row, Text.trim cell = cell ∧ '\n' ∉ cell)
    {rest : List Text} (hrest : ∀ line ∈ rest.head?, isGridLine line = false) :
    Block.SpelledBy (some (.grid grid)) (grid.lines.map Text.trim) rest := by
  refine .grid hrows ?_ hwidth hrest
  have hlines : grid.lines = (grid.header :: grid.rows).map rowLine := rfl
  rw [hlines, List.map_map, List.map_map]
  refine List.map_congr_left fun row hrow => ?_
  have hne : row ≠ [] := by
    rcases List.mem_cons.mp hrow with rfl | hrow
    · exact hheader
    · rintro rfl
      exact hheader (List.length_eq_zero_iff.mp (hwidth [] hrow).symm)
  rw [Function.comp_apply, Function.comp_apply, trim_rowLine, gridCells?_rowLine hne (hcells row hrow)]

namespace Block

/-- The **lines** of a block. -/
def lines : Block → List Text
  | form f => f.lines
  | grid g => g.lines

/-- A block that can be **written**. -/
def Tidy : Block → Prop
  | form f => f.Tidy
  | grid g => g.Tidy

/-- A block takes up **as many lines** as it is written on. -/
theorem length_lines (block : Block) : block.lines.length = block.size := by
  cases block with
  | form f => simp [lines, Form.lines, size]
  | grid g => simp [lines, Grid.lines, size]

/-- Whether lines **take no block up**: the first of them is neither a form line nor a grid line. -/
def EndBefore (rest : List Text) : Prop :=
  ∀ line ∈ rest.head?, isFormLine line = false ∧ isGridLine line = false

/-- Where no block comes next, **none is read**. -/
theorem read?_of_endBefore {rest : List Text} (hrest : EndBefore rest) : read? rest = .ok none := by
  cases rest with
  | nil => rfl
  | cons line rest =>
      obtain ⟨hform, hgrid⟩ := hrest line rfl
      cases rest with
      | nil => simp [read?, formNext, gridNext, hform]
      | cons next rest => simp [read?, formNext, gridNext, hform, hgrid]

/-- The lines of a block **spell it**, whatever else comes after them. -/
theorem Tidy.spelledBy_lines {block : Block} (hblock : block.Tidy) {rest : List Text} (hrest : EndBefore rest) :
    SpelledBy (some block) (block.lines.map Text.trim) rest := by
  cases block with
  | form f =>
      refine .form hblock.nonempty ?_ fun line hline => (hrest line hline).1
      rw [lines, Form.lines, List.map_map, List.map_map]
      exact List.map_congr_left fun field hfield => (hblock.fields field hfield).formField?_fieldLine
  | grid g =>
      refine Grid.spelledBy_lines hblock.header hblock.rows hblock.width (fun row hrow cell hcell => ?_)
        fun line hline => (hrest line hline).2
      have hcell := hblock.cells row hrow cell hcell
      exact ⟨hcell.trimmed, fun hfeed => absurd (hcell.unbroken _ hfeed) (by decide)⟩

/-- **The lines of a block are read as the block**, whatever else comes after them. -/
theorem read?_lines {block : Block} (hblock : block.Tidy) {rest : List Text} (hrest : EndBefore rest) :
    read? (block.lines.map Text.trim ++ rest) = .ok (some block) :=
  (hblock.spelledBy_lines hrest).read?_eq

end Block

end PlainSpec
