import PlainSpec.Proofs.BlockLines

/-!
# The pipes that delimit cells

A pipe **delimits** cells unless a backslash stands in front of it. The reader of rows takes the pipes at both ends
for delimiters, and cuts what is between them at the delimiters that it finds there. So it reads the text between
neighbouring delimiters of the row as long as the last pipe is one. A row that ends with an escaped pipe is accepted
all the same: there its last pipe closes a cell without being a delimiter, and the cell keeps the backslash.

Delimiters are given by their positions. The cut goes through the text and knows of the character before only
whether it is a backslash, so positions are counted from where the cut stands (`Text.delimitersFrom_cons`), and one
induction on the text ties the parts to the positions (`splitPipes_eq_between`).

## Main results

* `Text.mem_delimiters_iff`: the delimiters of a text are its pipes that no backslash stands in front of.
* `gridCells?_delimiters`: the cells of a row are cut out between neighbouring delimiters.
-/

namespace PlainSpec

namespace Text

/-! ### Positions -/

/-- Whether a pipe that delimits cells stands **at a position**, where `escaped` tells whether a backslash stands in
front of the text. -/
def delimitsAt (escaped : Bool) (t : Text) (i : Nat) : Bool :=
  t[i]? == some '|' &&
    match i with
    | 0 => !escaped
    | j + 1 => t[j]? != some '\\'

/-- The positions of the **delimiters** of a text, from left to right. -/
def delimitersFrom (escaped : Bool) (t : Text) : List Nat :=
  (List.range t.length).filter (delimitsAt escaped t)

/-- The positions of the **delimiters** of a row. -/
def delimiters (t : Text) : List Nat := delimitersFrom false t

/-- The texts **between** neighbouring positions. -/
def between (t : Text) (positions : List Nat) : List Text :=
  List.zipWith (fun left right => (t.take right).drop (left + 1)) positions positions.tail

variable {escaped : Bool} {t : Text}

/-- **The delimiters** of a text are its pipes that no backslash stands in front of. -/
theorem mem_delimiters_iff {i : Nat} :
    i ∈ delimiters t ↔ t[i]? = some '|' ∧ ∀ j, i = j + 1 → t[j]? ≠ some '\\' := by
  have hlength : t[i]? = some '|' → i < t.length := fun h => (List.getElem?_eq_some_iff.mp h).1
  rw [delimiters, delimitersFrom, List.mem_filter, List.mem_range]
  cases i with
  | zero => simpa [delimitsAt] using hlength
  | succ i =>
      simp only [delimitsAt, Bool.and_eq_true, beq_iff_eq, bne_iff_ne, Nat.add_right_cancel_iff, forall_eq']
      exact ⟨fun h => h.2, fun h => ⟨hlength h.1, h⟩⟩

/-- Delimiters stand **in the text**. -/
theorem lt_length_of_mem_delimitersFrom {i : Nat} (h : i ∈ delimitersFrom escaped t) : i < t.length :=
  List.mem_range.mp (List.mem_filter.mp h).1

/-- Delimiters are listed **from left to right**. -/
theorem pairwise_delimiters : (delimiters t).Pairwise (· < ·) := List.pairwise_lt_range.filter _

/-- The delimiters of a text, by **its first character** and what comes behind it. -/
theorem delimitersFrom_cons (c : Char) :
    delimitersFrom escaped (c :: t) =
      (if c = '|' && !escaped then [0] else []) ++ (delimitersFrom (c == '\\') t).map (· + 1) := by
  have hfirst : delimitsAt escaped (c :: t) 0 = (c = '|' && !escaped) := by
    simp [delimitsAt, Bool.beq_eq_decide_eq]
  have hbehind : (delimitsAt escaped (c :: t)) ∘ Nat.succ = delimitsAt (c == '\\') t := by
    funext i
    cases i with
    | zero => simp [delimitsAt, bne]
    | succ i => rfl
  rw [delimitersFrom, List.length_cons, List.range_succ_eq_map, List.filter_cons, List.filter_map, hbehind, hfirst]
  split <;> rfl

/-- A pipe at the end is a delimiter unless **a backslash** stands in front of it. -/
theorem delimitersFrom_append_pipe :
    delimitersFrom escaped (t ++ ['|']) =
      delimitersFrom escaped t ++ if t.getLast?.elim escaped (· == '\\') then [] else [t.length] := by
  induction t generalizing escaped with
  | nil => cases escaped <;> rfl
  | cons c t ih =>
      have hlast : (c :: t).getLast?.elim escaped (· == '\\') = t.getLast?.elim (c == '\\') (· == '\\') := by
        rw [List.getLast?_cons]
        cases t.getLast? <;> rfl
      rw [List.cons_append, delimitersFrom_cons, ih, delimitersFrom_cons, hlast, List.map_append, List.append_assoc]
      cases t.getLast?.elim (c == '\\') (· == '\\') <;> rfl

/-! ### Texts between positions -/

/-- The text between **the first two** positions, and the others. -/
theorem between_cons_cons (left right : Nat) (positions : List Nat) :
    between t (left :: right :: positions) = (t.take right).drop (left + 1) :: between t (right :: positions) := rfl

/-- Texts are the same behind **one more character**. -/
theorem between_map_succ (c : Char) (positions : List Nat) :
    between (c :: t) (positions.map (· + 1)) = between t positions := by
  rw [between, ← List.map_tail, List.zipWith_map]
  rfl

/-- Texts are the same **in front of** more characters. -/
theorem between_append (u : Text) {positions : List Nat} (h : ∀ i ∈ positions, i ≤ t.length) :
    between (t ++ u) positions = between t positions := by
  induction positions with
  | nil => rfl
  | cons left positions ih =>
      cases positions with
      | nil => rfl
      | cons right positions =>
          obtain ⟨-, hrest⟩ := List.forall_mem_cons.mp h
          rw [between_cons_cons, between_cons_cons, ih hrest,
            List.take_append_of_le_length (hrest right List.mem_cons_self)]

end Text

/-! ### Cells -/

/-- **A text is cut at its delimiters**: what stands between them, from the character in front of the text up to its
end. -/
theorem splitPipes_eq_between (escaped : Bool) (c : Char) (t : Text) :
    splitPipes escaped t =
      Text.between (c :: t) (0 :: (Text.delimitersFrom escaped t ++ [t.length]).map (· + 1)) := by
  induction t generalizing escaped c with
  | nil => rfl
  | cons d t ih =>
      rw [splitPipes, Text.delimitersFrom_cons]
      split
      · next hpipe =>
        obtain rfl : d = '|' := by simpa using (Bool.and_eq_true_iff.mp hpipe).1
        have hcut := ih false '|'
        rw [← Text.between_map_succ c] at hcut
        rw [hcut]
        simp [Text.between_cons_cons]
      · obtain ⟨right, positions, hpositions⟩ :
            ∃ right positions, Text.delimitersFrom (d == '\\') t ++ [t.length] = right :: positions :=
          List.exists_cons_of_ne_nil (by simp)
        have hlonger : [] ++ (Text.delimitersFrom (d == '\\') t).map (· + 1) ++ [(d :: t).length] =
            (right :: positions).map (· + 1) := by
          rw [← hpositions]
          simp
        rw [ih (d == '\\') d, hpositions, hlonger]
        calc Text.consHead d (Text.between (d :: t) (0 :: (right :: positions).map (· + 1)))
            = (d :: t.take right) :: Text.between (d :: t) ((right :: positions).map (· + 1)) := rfl
          _ = (d :: t.take right) :: Text.between (c :: d :: t) (((right :: positions).map (· + 1)).map (· + 1)) := by
            rw [Text.between_map_succ c]
          _ = Text.between (c :: d :: t) (0 :: ((right :: positions).map (· + 1)).map (· + 1)) := rfl

/-- What stands between the outer pipes is cut into **what stands between the positions** of the row that are
delimiters, and its end. -/
theorem splitPipes_eq_between_row (content : Text) :
    splitPipes false content = Text.between ('|' :: (content ++ ['|']))
      (0 :: (Text.delimitersFrom false content ++ [content.length]).map (· + 1)) := by
  have hbound : ∀ i ∈ 0 :: (Text.delimitersFrom false content ++ [content.length]).map (· + 1),
      i ≤ ('|' :: content).length := by
    refine List.forall_mem_cons.mpr ⟨Nat.zero_le _, List.forall_mem_map.mpr fun i hi => Nat.succ_le_succ ?_⟩
    rcases List.mem_append.mp hi with hi | hi
    · exact Nat.le_of_lt (Text.lt_length_of_mem_delimitersFrom hi)
    · exact Nat.le_of_eq (List.mem_singleton.mp hi)
  rw [splitPipes_eq_between false '|' content, ← List.cons_append, Text.between_append ['|'] hbound]

/-- A row ends with **an escaped pipe** exactly if a backslash ends its content. -/
theorem escapedPipe_isSuffix_iff (content : Text) :
    ['\\', '|'] <:+ '|' :: (content ++ ['|']) ↔ content.getLast? = some '\\' := by
  constructor
  · rintro ⟨front, hfront⟩
    have hboth : (front ++ ['\\']) ++ ['|'] = ('|' :: content) ++ ['|'] := by rw [List.append_assoc]; exact hfront
    have hcontent : front ++ ['\\'] = '|' :: content := List.append_cancel_right hboth
    have hlast := congrArg List.getLast? hcontent
    rw [List.getLast?_concat, List.getLast?_cons, Option.some.injEq] at hlast
    cases hend : content.getLast? with
    | none => exact absurd hlast (by simp [hend])
    | some c => rw [hlast, hend, Option.getD_some]
  · intro hlast
    obtain ⟨front, rfl⟩ := List.getLast?_eq_some_iff.mp hlast
    exact ⟨'|' :: front, by simp⟩

/-- The delimiters of a row are **its first pipe, those of its content**, and its last pipe unless a backslash ends the
content. -/
theorem delimiters_row (content : Text) :
    Text.delimiters ('|' :: (content ++ ['|'])) = 0 :: (Text.delimitersFrom false content ++
      if content.getLast? = some '\\' then [] else [content.length]).map (· + 1) := by
  have hpipe : ('|' == '\\') = false := rfl
  rw [Text.delimiters, Text.delimitersFrom_cons, hpipe, Text.delimitersFrom_append_pipe]
  cases content.getLast? <;> simp

/-- An escaped pipe at the end of a row is **none of its delimiters**. -/
theorem notMem_delimiters_row {content : Text} (hescaped : content.getLast? = some '\\') :
    content.length + 1 ∉ Text.delimiters ('|' :: (content ++ ['|'])) := by
  rw [delimiters_row, if_pos hescaped, List.append_nil]
  intro hmem
  rcases List.mem_cons.mp hmem with hzero | hmem
  · exact absurd hzero (Nat.succ_ne_zero _)
  · obtain ⟨i, hi, heq⟩ := List.mem_map.mp hmem
    have hlt := Text.lt_length_of_mem_delimitersFrom hi
    omega

/-- **The cells of a row are cut out between its delimiters.** The delimiters are the pipes that no backslash stands
in front of, and the first of them begins the row. If no backslash stands in front of the last pipe, it is a delimiter
too and ends the row, and the cells are the texts between neighbouring delimiters, trimmed and with pipes for escaped
pipes. Otherwise the last cell goes up to this pipe all the same, although it is no delimiter. -/
theorem gridCells?_delimiters {line : Text} (h : isGridLine line = true) :
    ∃ row ending, line = row ++ ending ∧ (ending = [] ∨ ending = ['\n']) ∧
      (∀ i, i ∈ row.delimiters ↔ row[i]? = some '|' ∧ ∀ j, i = j + 1 → row[j]? ≠ some '\\') ∧
      row.delimiters.Pairwise (· < ·) ∧ row.delimiters.head? = some 0 ∧
      (¬ ['\\', '|'] <:+ row → row.delimiters.getLast? = some (row.length - 1) ∧
        gridCells? line =
          some ((row.between row.delimiters).map fun cell => unescapePipes (Text.trim cell))) ∧
      (['\\', '|'] <:+ row → row.length - 1 ∉ row.delimiters ∧
        gridCells? line =
          some ((row.between (row.delimiters ++ [row.length - 1])).map fun cell => unescapePipes (Text.trim cell))) := by
  obtain ⟨content, hcontent⟩ := Option.isSome_iff_exists.mp h
  obtain ⟨ending, hline, hending, -⟩ := exists_of_gridContent? hcontent
  have hcells : gridCells? line =
      some ((splitPipes false content).map fun cell => unescapePipes (Text.trim cell)) := by
    rw [gridCells?, hcontent, Option.map_some]
  have hlength : ('|' :: (content ++ ['|'])).length - 1 = content.length + 1 := by simp
  have hdelimiters := delimiters_row content
  refine ⟨_, ending, hline, hending, fun i => Text.mem_delimiters_iff, Text.pairwise_delimiters, ?_, ?_, ?_⟩
  · rw [hdelimiters, List.head?_cons]
  · intro hopen
    rw [escapedPipe_isSuffix_iff] at hopen
    rw [if_neg hopen] at hdelimiters
    refine ⟨?_, ?_⟩
    · rw [hdelimiters, hlength]
      simp [List.getLast?_cons]
    · rw [hcells, splitPipes_eq_between_row, hdelimiters]
  · intro hescaped
    rw [escapedPipe_isSuffix_iff] at hescaped
    rw [if_pos hescaped, List.append_nil] at hdelimiters
    refine ⟨hlength ▸ notMem_delimiters_row hescaped, ?_⟩
    have hpositions : 0 :: (Text.delimitersFrom false content).map (· + 1) ++ [content.length + 1] =
        0 :: (Text.delimitersFrom false content ++ [content.length]).map (· + 1) := by simp
    rw [hcells, splitPipes_eq_between_row, hdelimiters, hlength, hpositions]

/-- A row with **a pipe inside a cell**. -/
def pipedRow : Text := "| x \\| y | z |"

/-- The pipe inside a cell is **none of the delimiters**, and the cells are cut out between these. -/
theorem gridCells?_delimiters_piped :
    isGridLine pipedRow = true ∧ ¬ ['\\', '|'] <:+ pipedRow ∧ pipedRow.delimiters = [0, 9, 13] ∧
      gridCells? pipedRow =
        some ((pipedRow.between pipedRow.delimiters).map fun cell => unescapePipes (Text.trim cell)) ∧
      gridCells? pipedRow = some [("x | y" : Text), ("z" : Text)] := by
  have hrow : isGridLine pipedRow = true := by decide
  have hopen : ¬ ['\\', '|'] <:+ pipedRow := by decide
  obtain ⟨row, ending, hline, hending, -, -, -, hcells, -⟩ := gridCells?_delimiters hrow
  obtain rfl : pipedRow = row := by
    rcases hending with rfl | rfl
    · rw [hline, List.append_nil]
    · have hlast : pipedRow.getLast? = some '\n' := by rw [hline, List.getLast?_concat]
      exact absurd hlast (by decide)
  exact ⟨hrow, hopen, by decide, (hcells hopen).2, by decide⟩

/-- **An escaped pipe that closes a row**: it is no delimiter, and yet the row is accepted and its cell ends there,
with the backslash. -/
theorem gridCells?_escapedEnd :
    isGridLine "|a\\|" = true ∧ Text.delimiters "|a\\|" = [0] ∧ gridCells? "|a\\|" = some [("a\\" : Text)] := by
  decide

end PlainSpec
