import Mathlib.Data.List.Forall2
import PlainSpec.Proofs.WrittenBlocks

/-!
# Canonical blocks

A block is read in a canonical form. Its cells and values are trimmed, a grid is as wide as its header throughout,
and the block takes up the whole run of lines of its kind. So what is written from a block is read as the same block
again, with one exception. Between its colons a form line may have white space and nothing else. Then its last
character is the name, and it is no trimmed name. From the line that is written for such a field one blank is read in
its place, whatever white space the name was (`nameReadBack`).

## Main results

* `formField?_eq_some_iff`: which field a form line says.
* `Grid.readRows_eq_error_iff`: the reader of rows rejects the first row of another width.
* `Block.read?_canonical`: the blocks that are read are canonical, and a grid is rejected for its first row of another
  width.
-/

namespace PlainSpec

/-! ### Fields -/

/-- The **field that a form line says**: the text between its colons is the name, trimmed, and the text behind them is
the value, trimmed. Of white space between the colons the last character is the name. -/
inductive SaysField : Text → Text × Text → Prop
  | named {segment after : Text} : ':' ∉ segment → Text.trim segment ≠ [] → '\n' ∉ Text.trim after →
      SaysField (':' :: (segment ++ ':' :: after)) (Text.trim segment, Text.trim after)
  | blank {blanks after : Text} {c : Char} : (∀ d ∈ blanks, isBlank d = true) → isBlank c = true →
      '\n' ∉ Text.trim after → SaysField (':' :: (blanks ++ [c] ++ ':' :: after)) ([c], Text.trim after)

/-- A line with a field has **two colons**, and the text between them has none. -/
theorem exists_of_formField? {line : Text} {field : Text × Text} (h : formField? line = some field) :
    ∃ segment after, line = ':' :: (segment ++ ':' :: after) ∧ ':' ∉ segment := by
  unfold formField? at h
  split at h
  · next rest =>
    have hcolon : ':' ∉ rest.takeWhile (· != ':') := fun hmem => by
      simpa using List.all_eq_true.mp List.all_takeWhile _ hmem
    obtain ⟨behind, hrest⟩ := List.takeWhile_prefix (p := (· != ':')) (l := rest)
    simp only at h
    generalize rest.takeWhile (· != ':') = segment at h hcolon hrest
    subst hrest
    rw [List.drop_left] at h
    split at h
    · next after _ _ => exact ⟨segment, after, rfl, hcolon⟩
    · exact absurd h (by simp)
  · exact absurd h (by simp)

/-- **A line holds the field that it says**, and no other line holds a field. -/
theorem formField?_eq_some_iff {line : Text} {field : Text × Text} :
    formField? line = some field ↔ SaysField line field := by
  constructor
  · intro h
    obtain ⟨segment, after, rfl, hcolon⟩ := exists_of_formField? h
    rw [formField?_segment hcolon, Option.bind_eq_some_iff] at h
    obtain ⟨last, hlast, h⟩ := h
    obtain ⟨front, rfl⟩ := List.getLast?_eq_some_iff.mp hlast
    split at h
    · exact absurd h (by simp)
    · next hfeed =>
      obtain rfl := Option.some.inj h
      split
      · next hblank =>
        rw [Text.trim_eq_nil_iff, List.forall_mem_append] at hblank
        exact .blank hblank.1 (hblank.2 last List.mem_cons_self) hfeed
      · next hname => exact .named hcolon hname hfeed
  · rintro (⟨hcolon, hname, hfeed⟩ | ⟨hblanks, hc, hfeed⟩)
    · next segment after =>
      obtain ⟨last, hlast⟩ : ∃ last, segment.getLast? = some last := by
        cases hlast : segment.getLast? with
        | none =>
            obtain rfl : segment = [] := List.getLast?_eq_none_iff.mp hlast
            exact absurd rfl hname
        | some last => exact ⟨last, rfl⟩
      rw [formField?_segment hcolon, hlast, Option.bind_some, if_neg hfeed, if_neg hname]
    · next blanks after c =>
      have hblank : ∀ d ∈ blanks ++ [c], isBlank d = true :=
        List.forall_mem_append.mpr ⟨hblanks, by simpa using hc⟩
      have hcolon : ':' ∉ blanks ++ [c] := fun hmem => absurd (hblank _ hmem) (by decide)
      rw [formField?_segment hcolon, List.getLast?_concat, Option.bind_some, if_neg hfeed,
        if_pos ((Text.trim_eq_nil_iff _).mpr hblank)]

/-- A field **as it is read**: the name is trimmed or a single character of white space, and it has no colon. -/
structure ReadField (field : Text × Text) : Prop where
  nonempty : field.1 ≠ []
  no_colon : ':' ∉ field.1
  name : Text.trim field.1 = field.1 ∨ ∃ c, isBlank c = true ∧ field.1 = [c]
  value : Text.trim field.2 = field.2
  no_feed : '\n' ∉ field.2

/-- A line says **a field as it is read**. -/
theorem SaysField.readField {line : Text} {field : Text × Text} (h : SaysField line field) : ReadField field := by
  cases h with
  | named hcolon hname hfeed =>
      exact ⟨hname, fun hmem => hcolon (Text.mem_of_mem_trim hmem), .inl (Text.trim_trim _), Text.trim_trim _, hfeed⟩
  | @blank _ _ c _ hc hfeed =>
      refine ⟨List.cons_ne_nil _ _, fun hmem => ?_, .inr ⟨c, hc, rfl⟩, Text.trim_trim _, hfeed⟩
      rw [← List.mem_singleton.mp hmem] at hc
      exact absurd hc (by decide)

/-- The name of a field as it is read is **read back** if and only if it is trimmed or a blank. -/
theorem ReadField.nameReadBack_eq_iff {field : Text × Text} (h : ReadField field) :
    nameReadBack field.1 = field.1 ↔ Text.trim field.1 = field.1 ∨ field.1 = [' '] := by
  rcases h.name with hname | ⟨c, hc, hname⟩
  · simp only [hname, true_or, iff_true]
    exact nameReadBack_of_trimmed hname h.nonempty
  · have htrim : Text.trim [c] = [] := (Text.trim_eq_nil_iff _).mpr (by simpa using hc)
    rw [hname, nameReadBack, htrim, if_pos rfl]
    simp [eq_comm]

/-! ### Cells -/

/-- The cut leaves **a part** at least. -/
theorem splitPipes_ne_nil (escaped : Bool) (t : Text) : splitPipes escaped t ≠ [] := by
  cases t with
  | nil => exact List.cons_ne_nil _ _
  | cons c t =>
      unfold splitPipes
      split
      · exact List.cons_ne_nil _ _
      · cases splitPipes (c == '\\') t with
        | nil => exact List.cons_ne_nil _ _
        | cons part parts => exact List.cons_ne_nil _ _

/-- The cut leaves **characters of the text** only. -/
theorem mem_of_mem_splitPipes {escaped : Bool} {t part : Text} (hpart : part ∈ splitPipes escaped t) {c : Char}
    (hc : c ∈ part) : c ∈ t := by
  induction t generalizing escaped part with
  | nil => exact (List.mem_singleton.mp hpart) ▸ hc
  | cons d t ih =>
      unfold splitPipes at hpart
      split at hpart
      · rcases List.mem_cons.mp hpart with rfl | hpart
        · exact absurd hc List.not_mem_nil
        · exact List.mem_cons_of_mem d (ih hpart hc)
      · cases hparts : splitPipes (d == '\\') t with
        | nil => exact absurd hparts (splitPipes_ne_nil _ t)
        | cons first parts =>
            rw [hparts, Text.consHead] at hpart
            rcases List.mem_cons.mp hpart with rfl | hpart
            · exact (List.mem_cons.mp hc).elim (fun hd => hd ▸ List.mem_cons_self) fun hc =>
                List.mem_cons_of_mem d (ih (hparts ▸ List.mem_cons_self) hc)
            · exact List.mem_cons_of_mem d (ih (hparts ▸ List.mem_cons_of_mem first hpart) hc)

/-- Without the backslashes in front of pipes there are **the same characters** at most. -/
theorem mem_of_mem_unescapePipes {t : Text} {c : Char} (h : c ∈ unescapePipes t) : c ∈ t := by
  induction t using unescapePipes.induct with
  | case1 => exact h
  | case2 t ih =>
      rw [unescapePipes] at h
      rcases List.mem_cons.mp h with rfl | h
      · exact List.mem_cons_of_mem _ List.mem_cons_self
      · exact List.mem_cons_of_mem _ (List.mem_cons_of_mem _ (ih h))
  | case3 d t hpipe ih =>
      rw [unescapePipes] at h
      · rcases List.mem_cons.mp h with rfl | h
        · exact List.mem_cons_self
        · exact List.mem_cons_of_mem d (ih h)
      · exact hpipe

/-- A trimmed text **stays trimmed** without the backslashes in front of pipes. -/
theorem trim_unescapePipes {t : Text} (ht : Text.trim t = t) : Text.trim (unescapePipes t) = unescapePipes t := by
  have hhead : ∀ c ∈ (unescapePipes t).head?, c = '|' ∨ c ∈ t.head? := by
    intro c hc
    unfold unescapePipes at hc
    split at hc
    · exact absurd hc (by simp)
    · exact .inl (by simpa using hc.symm)
    · exact .inr hc
  have hlast : (unescapePipes t).getLast? = t.getLast? := by
    clear ht hhead
    induction t using unescapePipes.induct with
    | case1 => rfl
    | case2 t ih => rw [unescapePipes, List.getLast?_cons_cons, List.getLast?_cons, List.getLast?_cons, ih]
    | case3 d t hpipe ih =>
        rw [unescapePipes, List.getLast?_cons, List.getLast?_cons, ih]
        exact hpipe
  obtain ⟨hfirst, hend⟩ := (Text.trim_eq_self_iff t).mp ht
  refine (Text.trim_eq_self_iff _).mpr ⟨fun c hc => ?_, hlast ▸ hend⟩
  rcases hhead c hc with rfl | hc
  · decide
  · exact hfirst c hc

/-- The cells of a row are **trimmed** texts without line feeds, and there is one at least. -/
theorem trimmed_of_gridCells? {line : Text} {cells : List Text} (h : gridCells? line = some cells) :
    cells ≠ [] ∧ ∀ cell ∈ cells, Text.trim cell = cell ∧ '\n' ∉ cell := by
  obtain ⟨content, hcontent, rfl⟩ := Option.map_eq_some_iff.mp h
  obtain ⟨-, -, -, hfeed⟩ := exists_of_gridContent? hcontent
  refine ⟨fun hnil => splitPipes_ne_nil false content (List.map_eq_nil_iff.mp hnil), List.forall_mem_map.mpr ?_⟩
  intro part hpart
  refine ⟨trim_unescapePipes (Text.trim_trim part), fun hmem => hfeed ?_⟩
  exact mem_of_mem_splitPipes hpart (Text.mem_of_mem_trim (mem_of_mem_unescapePipes hmem))

/-! ### Rows of another width -/

/-- Of lines that have something to be read from, with others behind them, the first **run** is as long as they are. -/
theorem takeWhile_append_of_map {α : Type} {read : Text → Option α} {p : Text → Bool}
    (hp : ∀ line, (read line).isSome = p line) {lines rest : List Text} {values : List α}
    (hlines : lines.map read = values.map some) (hrest : ∀ line ∈ rest.head?, p line = false) :
    (lines ++ rest).takeWhile p = lines := by
  have hall : ∀ line ∈ lines, p line = true := by
    intro line hline
    obtain ⟨value, -, hvalue⟩ := List.mem_map.mp (hlines ▸ List.mem_map_of_mem hline)
    rw [← hp line, ← hvalue, Option.isSome_some]
  rw [List.takeWhile_append_of_pos hall]
  cases rest with
  | nil => rw [List.takeWhile_nil, List.append_nil]
  | cons line rest => rw [List.takeWhile_cons_of_neg (by simp [hrest line rfl]), List.append_nil]

/-- The **first row of another width** than the header, with its cells, in a run of rows. -/
def FirstRagged (width : Nat) (run : List Text) (line : Text) (cells : List Text) : Prop :=
  ∃ before after, run = before ++ line :: after ∧
    (∀ row ∈ before, (gridCells? row).map List.length = some width) ∧
    gridCells? line = some cells ∧ cells.length ≠ width

/-- Where there are no rows, there is **none of another width**. -/
theorem not_firstRagged_nil {width : Nat} {line : Text} {cells : List Text} : ¬ FirstRagged width [] line cells := by
  rintro ⟨before, after, hrun, -⟩
  exact absurd hrun (by simp)

/-- Behind a row as wide as the header the first row of another width is **the same one**. -/
theorem firstRagged_cons_iff {width : Nat} {run : List Text} {row line : Text} {cells : List Text}
    (hrow : (gridCells? row).map List.length = some width) :
    FirstRagged width (row :: run) line cells ↔ FirstRagged width run line cells := by
  constructor
  · rintro ⟨before, after, hrun, hbefore, hcells, hwidth⟩
    cases before with
    | nil =>
        obtain ⟨rfl, -⟩ := List.cons.inj hrun
        rw [hcells] at hrow
        exact absurd (Option.some.inj hrow) hwidth
    | cons first before =>
        exact ⟨before, after, (List.cons.inj hrun).2, (List.forall_mem_cons.mp hbefore).2, hcells, hwidth⟩
  · rintro ⟨before, after, rfl, hbefore, hcells, hwidth⟩
    exact ⟨row :: before, after, rfl, List.forall_mem_cons.mpr ⟨hrow, hbefore⟩, hcells, hwidth⟩

/-- In front of all other rows a row of another width is **the first one**. -/
theorem firstRagged_cons_iff_of_ne {width : Nat} {run : List Text} {row line : Text} {cells found : List Text}
    (hrow : gridCells? row = some found) (hwidth : found.length ≠ width) :
    FirstRagged width (row :: run) line cells ↔ line = row ∧ cells = found := by
  constructor
  · rintro ⟨before, after, hrun, hbefore, hcells, -⟩
    cases before with
    | nil =>
        obtain ⟨rfl, -⟩ := List.cons.inj hrun
        exact ⟨rfl, Option.some.inj (hcells.symm.trans hrow)⟩
    | cons first before =>
        obtain ⟨rfl, -⟩ := List.cons.inj hrun
        have hfirst := (List.forall_mem_cons.mp hbefore).1
        rw [hrow] at hfirst
        exact absurd (Option.some.inj hfirst) hwidth
  · rintro ⟨rfl, rfl⟩
    exact ⟨[], run, rfl, by simp, hrow, hwidth⟩

/-- **The reader of rows rejects the first row of another width** than the header, and nothing else. -/
theorem Grid.readRows_eq_error_iff {width : Nat} {lines : List Text} {fault : SpecFault} :
    Grid.readRows width lines = .error fault ↔ ∃ line cells,
      FirstRagged width (lines.takeWhile isGridLine) line cells ∧ fault = .raggedRow cells.length width line := by
  induction lines with
  | nil => simp [Grid.readRows, not_firstRagged_nil]
  | cons row lines ih =>
      rw [Grid.readRows]
      cases hrow : gridCells? row with
      | none =>
          rw [List.takeWhile_cons_of_neg (by simp [isGridLine_eq_false hrow])]
          simp [not_firstRagged_nil]
      | some cells =>
          rw [List.takeWhile_cons_of_pos (isGridLine_of_gridCells? hrow)]
          simp only
          split
          · next hwidth =>
            have hlength : (gridCells? row).map List.length = some width := by rw [hrow, Option.map_some, hwidth]
            simp only [firstRagged_cons_iff hlength, ← ih]
            cases Grid.readRows width lines <;> simp [Except.map]
          · next hwidth =>
            simp only [firstRagged_cons_iff_of_ne hrow hwidth]
            constructor
            · intro h
              exact ⟨row, cells, ⟨rfl, rfl⟩, (Except.error.inj h).symm⟩
            · rintro ⟨line, found, ⟨rfl, rfl⟩, rfl⟩
              rfl

/-! ### Blocks -/

/-- A form is **canonical** for the run of form lines that it is read from. -/
structure Form.Canonical (form : Form) (run : List Text) : Prop where
  lines : List.Forall₂ SaysField run form.fields
  nonempty : form.fields ≠ []
  size : (Block.form form).size = run.length
  fields : ∀ field ∈ form.fields, ReadField field
  /-- What is written is read as the same form unless a name is white space other than a blank. -/
  readBack : Block.read? ((Block.form form).lines.map Text.trim) = .ok (some (.form form)) ↔
    ∀ field ∈ form.fields, Text.trim field.1 = field.1 ∨ field.1 = [' ']

/-- A grid is **canonical** for the run of grid lines that it is read from. -/
structure Grid.Canonical (grid : Grid) (run : List Text) : Prop where
  lines : run.map gridCells? = (grid.header :: grid.rows).map some
  nonempty : grid.rows ≠ []
  size : (Block.grid grid).size = run.length
  width : ∀ row ∈ grid.rows, row.length = grid.header.length
  trimmed : ∀ row ∈ grid.header :: grid.rows, ∀ cell ∈ row, Text.trim cell = cell
  readBack : Block.read? ((Block.grid grid).lines.map Text.trim) = .ok (some (.grid grid))

/-- Lines that **hold** the fields say them. -/
theorem forall₂_saysField_of_map {run : List Text} {fields : List (Text × Text)}
    (h : run.map formField? = fields.map some) : List.Forall₂ SaysField run fields := by
  induction run generalizing fields with
  | nil =>
      obtain rfl : fields = [] := List.map_eq_nil_iff.mp h.symm
      exact .nil
  | cons line run ih =>
      obtain ⟨field, fields, rfl, hfield, hmap⟩ := List.map_eq_cons_iff.mp h.symm
      exact .cons (formField?_eq_some_iff.mp hfield.symm) (ih hmap.symm)

/-- The lines of a form with fields as they are read spell it with **the names that are read back**. -/
theorem Form.read?_lines {form : Form} (hne : form.fields ≠ []) (hfields : ∀ field ∈ form.fields, ReadField field) :
    Block.read? ((Block.form form).lines.map Text.trim) =
      .ok (some (.form ⟨form.fields.map fun field => (nameReadBack field.1, field.2)⟩)) := by
  have hspelled : Block.SpelledBy (some (.form ⟨form.fields.map fun field => (nameReadBack field.1, field.2)⟩))
      ((Block.form form).lines.map Text.trim) [] := by
    refine .form (by simpa using hne) ?_ (by simp)
    rw [Block.lines, Form.lines, List.map_map, List.map_map, List.map_map]
    refine List.map_congr_left fun field hfield => ?_
    have hread := hfields field hfield
    exact formField?_fieldLine hread.no_colon hread.value hread.no_feed
  simpa using hspelled.read?_eq

/-- **A form that is read is canonical.** -/
theorem Form.canonical_of_spelledBy {form : Form} {run rest : List Text}
    (h : Block.SpelledBy (some (.form form)) run rest) :
    form.Canonical ((run ++ rest).takeWhile isFormLine) := by
  obtain ⟨fields⟩ := form
  have hsize := h.length_lines
  cases h with
  | form hne hlines hrest =>
      rw [takeWhile_append_of_map (p := isFormLine) (fun _ => rfl) hlines hrest]
      have hsaid := forall₂_saysField_of_map hlines
      have hfields : ∀ field ∈ fields, ReadField field := by
        intro field hfield
        obtain ⟨line, -, hline⟩ := List.mem_map.mp (hlines ▸ List.mem_map_of_mem hfield)
        exact (formField?_eq_some_iff.mp hline).readField
      refine ⟨hsaid, hne, hsize.symm, hfields, ?_⟩
      rw [Form.read?_lines hne hfields]
      have hsame : fields.map (fun field => (nameReadBack field.1, field.2)) = fields ↔
          ∀ field ∈ fields, nameReadBack field.1 = field.1 := by
        have hmap := List.map_inj_left (l := fields)
          (f := fun field : Text × Text => (nameReadBack field.1, field.2)) (g := id)
        rw [List.map_id] at hmap
        simpa [Prod.ext_iff] using hmap
      rw [Except.ok.injEq, Option.some.injEq, Block.form.injEq, Form.mk.injEq, hsame]
      exact forall₂_congr fun field hfield => (hfields field hfield).nameReadBack_eq_iff

/-- **A grid that is read is canonical.** -/
theorem Grid.canonical_of_spelledBy {grid : Grid} {run rest : List Text}
    (h : Block.SpelledBy (some (.grid grid)) run rest) :
    grid.Canonical ((run ++ rest).takeWhile isGridLine) := by
  obtain ⟨header, rows⟩ := grid
  have hsize := h.length_lines
  cases h with
  | grid hne hlines hwidth hrest =>
      rw [takeWhile_append_of_map isSome_gridCells? hlines hrest]
      have hcells : ∀ row ∈ header :: rows,
          row ≠ [] ∧ ∀ cell ∈ row, Text.trim cell = cell ∧ '\n' ∉ cell := by
        intro row hrow
        obtain ⟨line, -, hline⟩ := List.mem_map.mp (hlines ▸ List.mem_map_of_mem hrow)
        exact trimmed_of_gridCells? hline
      refine ⟨hlines, hne, hsize.symm, hwidth, fun row hrow cell hcell => ((hcells row hrow).2 cell hcell).1, ?_⟩
      have hspelled : Block.SpelledBy (some (.grid ⟨header, rows⟩)) ((Grid.mk header rows).lines.map Text.trim) [] :=
        Grid.spelledBy_lines (hcells _ List.mem_cons_self).1 hne hwidth (fun row hrow => (hcells row hrow).2) (by simp)
      rw [← List.append_nil (List.map Text.trim _)]
      exact hspelled.read?_eq

namespace Block

/-- **A grid comes next** where the run of grid lines has a header and one row at least. -/
theorem gridNext_iff {following : List Text} :
    gridNext following = true ↔ ∃ header row rows, following.takeWhile isGridLine = header :: row :: rows := by
  match following with
  | [] => simp [gridNext]
  | [first] => cases hfirst : isGridLine first <;> simp [gridNext, hfirst]
  | first :: second :: lines =>
      cases hfirst : isGridLine first <;> cases hsecond : isGridLine second <;> simp [gridNext, hfirst, hsecond]

/-- Where a grid comes next, a block is rejected if and only if **its rows** are. -/
theorem read?_eq_error_iff_readRows {first : Text} {lines : List Text} {header : List Text} {fault : SpecFault}
    (hnext : gridNext (first :: lines) = true) (hheader : gridCells? first = some header) :
    read? (first :: lines) = .error fault ↔ Grid.readRows header.length lines = .error fault := by
  have hnoForm : formNext (first :: lines) = false := isFormLine_of_isGridLine (isGridLine_of_gridCells? hheader)
  have hread : read? (first :: lines) = (Grid.read first lines).map fun grid => some (.grid grid) := by
    simp [read?, hnoForm, hnext]
  rw [hread, Grid.read, gridCells, hheader]
  cases hrows : Grid.readRows header.length lines with
  | error other => simp [hrows, bind, Except.bind, Except.map]
  | ok rows => simp [hrows, bind, Except.bind, Except.map, pure, Except.pure]

/-- **A block is rejected** if and only if it is a grid with a row of another width than the header, for the first such
row. -/
theorem read?_eq_error_iff {following : List Text} {fault : SpecFault} :
    read? following = .error fault ↔ ∃ header rows width line cells,
      following.takeWhile isGridLine = header :: rows ∧ (gridCells? header).map List.length = some width ∧
      FirstRagged width rows line cells ∧ fault = .raggedRow cells.length width line := by
  cases hnext : gridNext following with
  | false =>
      refine iff_of_false (fun h => ?_) ?_
      · rw [read?.eq_def, hnext] at h
        split at h
        · cases h
        · cases following <;> cases h
      · rintro ⟨header, rows, width, line, cells, hrun, -, ⟨before, after, rfl, -⟩, -⟩
        have hgrid : gridNext following = true := by
          cases before with
          | nil => exact gridNext_iff.mpr ⟨header, line, after, hrun⟩
          | cons row before => exact gridNext_iff.mpr ⟨header, row, before ++ line :: after, hrun⟩
        exact absurd hgrid (by simp [hnext])
  | true =>
      cases following with
      | nil => exact absurd hnext (by simp [gridNext])
      | cons first lines =>
          obtain ⟨header, hheader⟩ : ∃ header, gridCells? first = some header := by
            obtain ⟨_, row, rows, hrun⟩ := gridNext_iff.mp hnext
            cases hfirst : gridCells? first with
            | none => exact absurd hrun (by simp [isGridLine_eq_false hfirst])
            | some header => exact ⟨header, rfl⟩
          rw [read?_eq_error_iff_readRows hnext hheader, Grid.readRows_eq_error_iff,
            List.takeWhile_cons_of_pos (isGridLine_of_gridCells? hheader)]
          constructor
          · rintro ⟨line, cells, hragged, hfault⟩
            exact ⟨first, _, header.length, line, cells, rfl, by rw [hheader, Option.map_some], hragged, hfault⟩
          · rintro ⟨_, rows, width, line, cells, hrun, hwidth, hragged, hfault⟩
            obtain ⟨rfl, rfl⟩ := List.cons.inj hrun
            rw [hheader] at hwidth
            obtain rfl : header.length = width := Option.some.inj hwidth
            exact ⟨line, cells, hragged, hfault⟩

/-- **Blocks are read canonically.** Of the lines behind a position a form or a grid is read from the whole run of lines
of its kind. Their fields and cells are trimmed, apart from names that are a single character of white space. What is
written is read as the same block, unless such a name is no blank. A grid is rejected if and only if it has a row of
another width than the header, for the first such row. -/
theorem read?_canonical (lines : List Text) (index : Nat) :
    (∀ form, read? (lines.drop (index + 1)) = .ok (some (.form form)) →
      form.Canonical ((lines.drop (index + 1)).takeWhile isFormLine)) ∧
    (∀ grid, read? (lines.drop (index + 1)) = .ok (some (.grid grid)) →
      grid.Canonical ((lines.drop (index + 1)).takeWhile isGridLine)) ∧
    ∀ fault, read? (lines.drop (index + 1)) = .error fault ↔ ∃ header rows width line cells,
      (lines.drop (index + 1)).takeWhile isGridLine = header :: rows ∧
      (gridCells? header).map List.length = some width ∧
      FirstRagged width rows line cells ∧ fault = .raggedRow cells.length width line := by
  refine ⟨fun form h => ?_, fun grid h => ?_, fun fault => read?_eq_error_iff⟩
  · obtain ⟨run, rest, hlines, hspelled⟩ := spelledBy_of_read? h
    exact hlines ▸ Form.canonical_of_spelledBy hspelled
  · obtain ⟨run, rest, hlines, hspelled⟩ := spelledBy_of_read? h
    exact hlines ▸ Grid.canonical_of_spelledBy hspelled

/-- A step with a **form**, the last value of which is empty. -/
def spacedLines : List Text := ["Given an order", ": product : widget", ": quantity  :"]

/-- From the lines of a form its fields are read, **and again** from the lines that are written for it. -/
theorem read?_canonical_spaced :
    ∃ form : Form, read? (spacedLines.drop 1) = .ok (some (.form form)) ∧
      (Block.form form).size = ((spacedLines.drop 1).takeWhile isFormLine).length ∧
      read? ((Block.form form).lines.map Text.trim) = .ok (some (.form form)) := by
  have hread : read? (spacedLines.drop 1) =
      .ok (some (.form ⟨[("product", "widget"), ("quantity", "")]⟩)) := by decide
  have hcanonical := (read?_canonical spacedLines 0).1 _ hread
  refine ⟨_, hread, hcanonical.size, hcanonical.readBack.mpr ?_⟩
  decide

/-- **A name of white space**: a tab between the colons is the name that is read, it is not trimmed, and another block
is read from the line that is written for it. -/
theorem read?_blankName :
    read? [": : x"] = .ok (some (.form ⟨[(" ", "x")]⟩)) ∧ Text.trim " " ≠ " " ∧
      read? [":\t: x"] = .ok (some (.form ⟨[("\t", "x")]⟩)) ∧
      read? ((Block.form ⟨[("\t", "x")]⟩).lines.map Text.trim) = .ok (some (.form ⟨[(" ", "x")]⟩)) := by
  decide

end Block

end PlainSpec
