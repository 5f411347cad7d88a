import PlainSpec.Block.Reader

/-!
# The lines of a block

A step takes up the lines under it that form its block, and no others. This module says which lines a block
is spelled by, line by line and without the reader, and shows that the reader takes up exactly these. A
form ends only where no form line comes next, and a grid only where no grid line does, so the block of a
step is as long as it can be.

## Main results

* `Block.SpelledBy`: the lines that spell a block, with other lines behind them.
* `Block.spelledBy_of_read?`: the lines that the reader takes up spell the block that it reads.
* `Block.SpelledBy.read?_eq`: from lines that spell a block the reader reads it.
-/

namespace PlainSpec

/-- The lines that **spell a block**, and the lines behind them. Without a block there are no lines, and
neither a form nor a grid comes next. -/
inductive Block.SpelledBy : Option Block → List Text → List Text → Prop
  | none {rest : List Text} :
      Block.formNext rest = false → Block.gridNext rest = false → SpelledBy none [] rest
  | form {fields : List (Text × Text)} {lines rest : List Text} :
      fields ≠ [] → lines.map formField? = fields.map some →
      (∀ line ∈ rest.head?, isFormLine line = false) →
      SpelledBy (some (.form ⟨fields⟩)) lines rest
  | grid {header : List Text} {rows : List (List Text)} {lines rest : List Text} :
      rows ≠ [] → lines.map gridCells? = (header :: rows).map some →
      (∀ row ∈ rows, row.length = header.length) →
      (∀ line ∈ rest.head?, isGridLine line = false) →
      SpelledBy (some (.grid ⟨header, rows⟩)) lines rest

/-- A block is spelled by **as many lines as it takes up**. -/
theorem Block.SpelledBy.length_lines {block : Option Block} {lines rest : List Text}
    (h : SpelledBy block lines rest) : lines.length = block.elim 0 Block.size := by
  cases h with
  | none => rfl
  | form _ hlines _ => simpa [size] using congrArg List.length hlines
  | grid _ hlines _ _ => simpa [size] using congrArg List.length hlines

/-! ### What the reader takes up -/

/-- A line is a row exactly if it has **cells**. -/
theorem isSome_gridCells? (line : Text) : (gridCells? line).isSome = isGridLine line := by
  rw [gridCells?, Option.isSome_map, isGridLine]

/-- A line **with cells** is a row. -/
theorem isGridLine_of_gridCells? {line : Text} {cells : List Text} (h : gridCells? line = some cells) :
    isGridLine line = true := by
  rw [← isSome_gridCells?, h, Option.isSome_some]

/-- A line **without cells** is no row. -/
theorem isGridLine_eq_false {line : Text} (h : gridCells? line = none) : isGridLine line = false := by
  rw [← isSome_gridCells?, h, Option.isSome_none]

/-- The reader of a form takes up **the form lines at the beginning**, and all of them. -/
theorem Form.exists_of_read (lines : List Text) :
    ∃ taken rest, lines = taken ++ rest ∧ taken.map formField? = (Form.read lines).map some ∧
      ∀ line ∈ rest.head?, isFormLine line = false := by
  induction lines with
  | nil => exact ⟨[], [], rfl, rfl, fun _ hline => absurd hline (by simp)⟩
  | cons line lines ih =>
      cases hfield : formField? line with
      | none =>
          refine ⟨[], line :: lines, rfl, by simp [Form.read, hfield], fun other hother => ?_⟩
          obtain rfl : line = other := by simpa using hother
          rw [isFormLine, hfield, Option.isSome_none]
      | some field =>
          obtain ⟨taken, rest, hlines, hmap, hend⟩ := ih
          refine ⟨line :: taken, rest, by rw [hlines, List.cons_append], ?_, hend⟩
          simp [Form.read, hfield, hmap]

/-- The reader of rows takes up **the grid lines at the beginning**, and all of them. -/
theorem Grid.exists_of_readRows {width : Nat} {lines : List Text} {rows : List (List Text)}
    (h : Grid.readRows width lines = .ok rows) :
    ∃ taken rest, lines = taken ++ rest ∧ taken.map gridCells? = rows.map some ∧
      (∀ row ∈ rows, row.length = width) ∧ ∀ line ∈ rest.head?, isGridLine line = false := by
  induction lines generalizing rows with
  | nil =>
      obtain rfl : [] = rows := Except.ok.inj h
      exact ⟨[], [], rfl, rfl, by simp, by simp⟩
  | cons line lines ih =>
      rw [Grid.readRows] at h
      cases hcells : gridCells? line with
      | none =>
          rw [hcells] at h
          obtain rfl : [] = rows := Except.ok.inj h
          refine ⟨[], line :: lines, rfl, rfl, by simp, fun other hother => ?_⟩
          obtain rfl : line = other := by simpa using hother
          exact isGridLine_eq_false hcells
      | some cells =>
          simp only [hcells] at h
          split at h
          · next hwidth =>
            cases hrows : Grid.readRows width lines with
            | error fault => simp [hrows, Except.map] at h
            | ok below =>
                obtain rfl : cells :: below = rows := by simpa [hrows, Except.map] using h
                obtain ⟨taken, rest, hlines, hmap, hwidths, hend⟩ := ih hrows
                refine ⟨line :: taken, rest, by rw [hlines, List.cons_append], ?_, ?_, hend⟩
                · rw [List.map_cons, List.map_cons, hcells, hmap]
                · exact List.forall_mem_cons.mpr ⟨hwidth, hwidths⟩
          · exact absurd h (by simp)

/-- A grid is read from **its header line and its rows**. -/
theorem Grid.exists_of_read {line : Text} {lines : List Text} {grid : Grid}
    (h : Grid.read line lines = .ok grid) :
    ∃ taken rest, lines = taken ++ rest ∧
      (line :: taken).map gridCells? = (grid.header :: grid.rows).map some ∧
      (∀ row ∈ grid.rows, row.length = grid.header.length) ∧
      ∀ line ∈ rest.head?, isGridLine line = false := by
  cases hheader : gridCells? line with
  | none => simp [Grid.read, gridCells, hheader, bind, Except.bind] at h
  | some header =>
      cases hrows : Grid.readRows header.length lines with
      | error fault => simp [Grid.read, gridCells, hheader, hrows, bind, Except.bind] at h
      | ok rows =>
          obtain rfl : ⟨header, rows⟩ = grid := by
            simpa [Grid.read, gridCells, hheader, hrows, bind, Except.bind, pure, Except.pure] using h
          obtain ⟨taken, rest, hlines, hmap, hwidths, hend⟩ := Grid.exists_of_readRows hrows
          exact ⟨taken, rest, hlines, by simp [hheader, hmap], hwidths, hend⟩

namespace Block

/-- **The lines that the reader takes up spell the block that it reads**: as many lines at the beginning as
the block has. -/
theorem spelledBy_of_read? {lines : List Text} {block : Option Block}
    (h : read? lines = .ok block) :
    ∃ taken rest, lines = taken ++ rest ∧ SpelledBy block taken rest := by
  rw [read?.eq_def] at h
  by_cases hform : formNext lines = true
  · obtain ⟨taken, rest, hlines, hmap, hend⟩ := Form.exists_of_read lines
    rw [if_pos hform] at h
    obtain rfl : some (.form ⟨Form.read lines⟩) = block := Except.ok.inj h
    refine ⟨taken, rest, hlines, .form ?_ hmap hend⟩
    -- the first line is a form line, so that at least one is taken up
    cases lines with
    | nil => exact absurd hform (by simp [formNext])
    | cons line lines =>
        obtain ⟨field, hfield⟩ := Option.isSome_iff_exists.mp hform
        simp [Form.read, hfield]
  · rw [if_neg hform] at h
    have hnoForm : formNext lines = false := by simpa using hform
    cases lines with
    | nil =>
        obtain rfl : none = block := Except.ok.inj h
        exact ⟨[], [], rfl, .none rfl rfl⟩
    | cons line lines =>
        by_cases hgrid : gridNext (line :: lines) = true
        · simp only [hgrid, if_true] at h
          cases hread : Grid.read line lines with
          | error fault => simp [hread, Except.map] at h
          | ok grid =>
              obtain rfl : some (.grid grid) = block := by simpa [hread, Except.map] using h
              obtain ⟨taken, rest, rfl, hmap, hwidths, hend⟩ := Grid.exists_of_read hread
              refine ⟨line :: taken, rest, rfl, .grid ?_ hmap hwidths hend⟩
              -- the second line is a grid line, so that it is not what ends the grid
              intro hrows
              have htaken : taken = [] := by simpa [hrows] using congrArg List.length hmap
              subst htaken
              cases rest with
              | nil => exact absurd hgrid (by simp [gridNext])
              | cons row rest =>
                  have hrow : isGridLine row = false := hend row rfl
                  exact absurd hgrid (by simp [gridNext, hrow])
        · have hnoGrid : gridNext (line :: lines) = false := by simpa using hgrid
          rw [hnoGrid] at h
          obtain rfl : none = block := Except.ok.inj h
          exact ⟨[], line :: lines, rfl, .none hnoForm hnoGrid⟩

end Block

/-! ### Form lines and grid lines -/

/-- A form line **begins with a colon**. -/
theorem head?_of_isFormLine {line : Text} (h : isFormLine line = true) : line.head? = some ':' := by
  unfold isFormLine formField? at h
  split at h
  · rfl
  · exact absurd h (by simp)

/-- A grid line **begins with a pipe**. -/
theorem head?_of_isGridLine {line : Text} (h : isGridLine line = true) : line.head? = some '|' := by
  unfold isGridLine gridContent? at h
  split at h
  · rfl
  · exact absurd h (by simp)

/-- A row is a pipe, **the content** and a pipe, which a line feed may follow. -/
theorem exists_of_gridContent? {line content : Text} (h : gridContent? line = some content) :
    ∃ ending, line = '|' :: (content ++ ['|']) ++ ending ∧ (ending = [] ∨ ending = ['\n']) ∧ '\n' ∉ content := by
  unfold gridContent? at h
  split at h
  · next rest =>
    have hclosed : ∀ inner : Text,
        (if inner.getLast? = some '|' && !inner.contains '\n' then some inner.dropLast else none) = some content →
          inner = content ++ ['|'] ∧ '\n' ∉ content := by
      intro inner hinner
      split at hinner
      · next hends =>
        obtain ⟨hlast, hfeed⟩ : inner.getLast? = some '|' ∧ '\n' ∉ inner := by simpa using hends
        obtain ⟨front, rfl⟩ := List.getLast?_eq_some_iff.mp hlast
        obtain rfl : front = content := by simpa using hinner
        exact ⟨rfl, fun hmem => hfeed (List.mem_append_left _ hmem)⟩
      · exact absurd hinner (by simp)
    obtain ⟨hrest, hunbroken⟩ := hclosed _ h
    split at hrest
    · next hfeed =>
      obtain ⟨front, rfl⟩ := List.getLast?_eq_some_iff.mp hfeed
      refine ⟨['\n'], ?_, .inr rfl, hunbroken⟩
      rw [List.cons_append, ← hrest, List.dropLast_concat]
    · exact ⟨[], by rw [hrest, List.append_nil], .inl rfl, hunbroken⟩
  · exact absurd h (by simp)

/-- A grid line is **no form line**. -/
theorem isFormLine_of_isGridLine {line : Text} (h : isGridLine line = true) : isFormLine line = false := by
  rw [← Bool.not_eq_true]
  intro hform
  have hmark := (head?_of_isFormLine hform).symm.trans (head?_of_isGridLine h)
  exact absurd hmark (by decide)

/-! ### What is read from spelled lines -/

/-- From **form lines** with others behind them their fields are read. -/
theorem Form.read_of_map {fields : List (Text × Text)} {lines rest : List Text}
    (hlines : lines.map formField? = fields.map some) (hrest : ∀ line ∈ rest.head?, isFormLine line = false) :
    Form.read (lines ++ rest) = fields := by
  induction lines generalizing fields with
  | nil =>
      obtain rfl : fields = [] := List.map_eq_nil_iff.mp hlines.symm
      cases rest with
      | nil => rfl
      | cons line rest =>
          have hline : formField? line = none := by simpa [isFormLine] using hrest line rfl
          simp [Form.read, hline]
  | cons line lines ih =>
      obtain ⟨field, fields, rfl, hfield, hmap⟩ := List.map_eq_cons_iff.mp hlines.symm
      rw [List.cons_append, Form.read, ← hfield, ih hmap.symm]

/-- From **grid lines** of one width with others behind them their rows are read. -/
theorem Grid.readRows_of_map {width : Nat} {rows : List (List Text)} {lines rest : List Text}
    (hlines : lines.map gridCells? = rows.map some) (hwidth : ∀ row ∈ rows, row.length = width)
    (hrest : ∀ line ∈ rest.head?, isGridLine line = false) :
    Grid.readRows width (lines ++ rest) = .ok rows := by
  induction lines generalizing rows with
  | nil =>
      obtain rfl : rows = [] := List.map_eq_nil_iff.mp hlines.symm
      cases rest with
      | nil => rfl
      | cons line rest =>
          have hline : gridCells? line = none := by simpa [← isSome_gridCells?] using hrest line rfl
          rw [List.nil_append, Grid.readRows, hline]
  | cons line lines ih =>
      obtain ⟨row, rows, rfl, hrow, hmap⟩ := List.map_eq_cons_iff.mp hlines.symm
      obtain ⟨hlength, hwidth⟩ := List.forall_mem_cons.mp hwidth
      simp only [List.cons_append, Grid.readRows, ← hrow, if_pos hlength, ih hmap.symm hwidth]
      rfl

/-- **From lines that spell a block the reader reads it**, whatever else comes after them. -/
theorem Block.SpelledBy.read?_eq {block : Option Block} {lines rest : List Text}
    (h : SpelledBy block lines rest) : read? (lines ++ rest) = .ok block := by
  cases h with
  | none hform hgrid =>
      rw [List.nil_append, read?.eq_def, hform]
      cases rest with
      | nil => rfl
      | cons line rest => simp [hgrid]
  | @form fields lines rest hne hmap hrest =>
      have hnext : formNext (lines ++ rest) = true := by
        obtain ⟨field, fields, rfl⟩ := List.exists_cons_of_ne_nil hne
        obtain ⟨line, lines, rfl, hline, -⟩ := List.map_eq_cons_iff.mp hmap
        simp [formNext, isFormLine, hline]
      rw [read?.eq_def, if_pos hnext, Form.read_of_map hmap hrest]
  | @grid header rows lines rest hne hmap hwidth hrest =>
      obtain ⟨first, lines, rfl, hfirst, hmap⟩ := List.map_eq_cons_iff.mp hmap
      have hheader : isGridLine first = true := isGridLine_of_gridCells? hfirst
      have hnoForm : isFormLine first = false := isFormLine_of_isGridLine hheader
      have hnext : gridNext (first :: (lines ++ rest)) = true := by
        obtain ⟨row, rows, rfl⟩ := List.exists_cons_of_ne_nil hne
        obtain ⟨second, lines, rfl, hsecond, -⟩ := List.map_eq_cons_iff.mp hmap
        have hrow : isGridLine second = true := isGridLine_of_gridCells? hsecond
        simp [gridNext, hheader, hrow]
      have hrows := Grid.readRows_of_map hmap hwidth hrest
      have hcells : gridCells first = .ok header := by rw [gridCells, hfirst]
      have hread : Grid.read first (lines ++ rest) = .ok ⟨header, rows⟩ := by
        simp only [Grid.read, hcells, bind, Except.bind, hrows]
        rfl
      simp only [List.cons_append, read?, formNext, hnoForm, hnext, hread, if_true, Bool.false_eq_true, if_false]
      rfl

end PlainSpec
