import PlainSpec.Proofs.BlockLines
import PlainSpec.Proofs.DistinctKeys

/-!
# The two views of a block

A step function takes the block of a step as it is, or as a record or a list of records. In the block a name is looked
for up to case and from the front. In a record it is a key, spelled exactly, and of several values of one key the last
one counts. A block may have a name twice, and names that differ in case alone, so the two views look at places of
their own: the **first** name that is the same up to case, and the **last** one that is spelled the same.

The views agree under a name exactly if the block has the same value, or the same column, at both places. If no two
names are the same up to case, the places are one and the same.

## Main results

* `FirstAlike.eq_of_nodup`: names that differ up to case have one place each.
* `Entries.lookup_ofPairs_zip`: a record has what is at the last place.
* `Block.read?_views`: where the views of a block look, and when they agree.
-/

namespace PlainSpec

/-! ### Two places of a name -/

/-- The place of the **first** of several names that is the same as a name up to case. -/
def FirstAlike (names : List Text) (name : Text) (i : Nat) : Prop :=
  (names.map Text.lower)[i]? = some (Text.lower name) ∧ ∀ k < i, (names.map Text.lower)[k]? ≠ some (Text.lower name)

/-- The place of the **last** of several names that is spelled as a name. -/
def LastSpelled (names : List Text) (name : Text) (j : Nat) : Prop :=
  names[j]? = some name ∧ ∀ k, j < k → names[k]? ≠ some name

section

variable {α : Type} {names : List Text} {values : List α} {name : Text} {i j : Nat}

/-- The first place **is found** by looking through the names in lower case. -/
theorem findIdx?_eq_some_iff_firstAlike :
    names.findIdx? (fun n => Text.lower n == Text.lower name) = some i ↔ FirstAlike names name i := by
  rw [List.findIdx?_eq_some_iff_getElem, FirstAlike, List.getElem?_map, Option.map_eq_some_iff]
  constructor
  · rintro ⟨hi, hname, hbefore⟩
    refine ⟨⟨names[i], List.getElem?_eq_getElem hi, beq_iff_eq.mp hname⟩, fun k hk hsame => ?_⟩
    rw [List.getElem?_map, List.getElem?_eq_getElem (Nat.lt_trans hk hi), Option.map_some, Option.some.injEq] at hsame
    exact hbefore k hk (beq_iff_eq.mpr hsame)
  · rintro ⟨⟨found, hfound, hname⟩, hbefore⟩
    obtain ⟨hi, rfl⟩ := List.getElem?_eq_some_iff.mp hfound
    refine ⟨hi, beq_iff_eq.mpr hname, fun k hk hsame => hbefore k hk ?_⟩
    rw [List.getElem?_map, List.getElem?_eq_getElem (Nat.lt_trans hk hi), Option.map_some, beq_iff_eq.mp hsame]

/-- A name of a list has a **first place**. -/
theorem exists_firstAlike (h : name ∈ names) : ∃ i, FirstAlike names name i := by
  have hsome : (names.findIdx? fun n => Text.lower n == Text.lower name).isSome = true :=
    List.findIdx?_isSome.trans (List.any_eq_true.mpr ⟨name, h, beq_self_eq_true _⟩)
  obtain ⟨i, hi⟩ := Option.isSome_iff_exists.mp hsome
  exact ⟨i, findIdx?_eq_some_iff_firstAlike.mp hi⟩

/-- A name of a list has a **last place**. -/
theorem exists_lastSpelled (h : name ∈ names) : ∃ j, LastSpelled names name j := by
  -- the last place is the first one from behind
  obtain ⟨behind, before, hsplit, hnot⟩ := List.eq_append_cons_of_mem (List.mem_reverse.mpr h)
  have hnames : names = before.reverse ++ name :: behind.reverse := by
    rw [← List.reverse_reverse names, hsplit]
    simp
  refine ⟨before.reverse.length, by simp [hnames], fun k hk hsame => hnot ?_⟩
  obtain ⟨n, rfl⟩ := Nat.exists_eq_add_of_lt hk
  rw [hnames, List.getElem?_append_right (by omega), Nat.add_assoc, Nat.add_sub_cancel_left,
    List.getElem?_cons_succ] at hsame
  exact List.mem_reverse.mp (List.mem_of_getElem? hsame)

/-- Names that **differ up to case** have one place each. -/
theorem FirstAlike.eq_of_nodup (hnodup : (names.map Text.lower).Nodup) (hi : FirstAlike names name i)
    (hj : LastSpelled names name j) : i = j := by
  have hlast : (names.map Text.lower)[j]? = some (Text.lower name) := by rw [List.getElem?_map, hj.1, Option.map_some]
  obtain ⟨hlt, hfirst⟩ := List.getElem?_eq_some_iff.mp hi.1
  obtain ⟨hlt', hlast⟩ := List.getElem?_eq_some_iff.mp hlast
  exact hnodup.getElem_inj_iff.mp (hfirst.trans hlast.symm)

/-- A key stands for the value of **the last pair** that has it, wherever this stands. -/
theorem Entries.lookup_ofPairs_of_getElem? {pairs : List (Text × α)} {value : α}
    (hj : pairs[j]? = some (name, value)) (hlast : ∀ k, j < k → ∀ pair, pairs[k]? = some pair → pair.1 ≠ name) :
    (Entries.ofPairs pairs).lookup name = some value := by
  obtain ⟨hlt, hpair⟩ := List.getElem?_eq_some_iff.mp hj
  have hsplit : pairs = pairs.take j ++ (name, value) :: pairs.drop (j + 1) := by
    rw [← hpair, List.getElem_cons_drop, List.take_append_drop]
  refine lookup_ofPairs_eq_some_iff.mpr ⟨_, _, hsplit, fun pair hpair => ?_⟩
  obtain ⟨k, hk⟩ := List.mem_iff_getElem?.mp hpair
  rw [List.getElem?_drop] at hk
  exact hlast _ (by omega) pair hk

/-- **A record has what is at the last place** of a name. -/
theorem Entries.lookup_ofPairs_zip (hj : LastSpelled names name j) {value : α} (hvalue : values[j]? = some value) :
    (Entries.ofPairs (names.zip values)).lookup name = some value := by
  refine lookup_ofPairs_of_getElem? (j := j) (List.getElem?_zip_eq_some.mpr ⟨hj.1, hvalue⟩) fun k hk pair hpair => ?_
  rintro rfl
  exact hj.2 k hk (List.getElem?_zip_eq_some.mp hpair).1

end

/-! ### Forms -/

/-- **Where the views of a form look** under a name: at the first field, and at the last one. -/
structure Form.Views (form : Form) (name : Text) (first last : Text × Text) : Prop where
  atFirst : ∃ i, FirstAlike (form.fields.map Prod.fst) name i ∧ form.fields[i]? = some first
  atLast : ∃ j, LastSpelled (form.fields.map Prod.fst) name j ∧ form.fields[j]? = some last
  get : form.get? name = some first.2
  lookup : form.toRecord.lookup name = some last.2

namespace Form

variable {form : Form} {name : Text} {i j : Nat} {field first last : Text × Text}

/-- In a form the **first field** is found. -/
theorem get?_eq (hi : FirstAlike (form.fields.map Prod.fst) name i) (hfield : form.fields[i]? = some field) :
    form.get? name = some field.2 := by
  have hfound := findIdx?_eq_some_iff_firstAlike.mpr hi
  rw [List.findIdx?_map] at hfound
  rw [get?, List.find?_eq_bind_findIdx?_getElem?]
  have hindex : form.fields.findIdx? (fun field => Text.lower field.1 == Text.lower name) = some i := hfound
  rw [hindex, Option.bind_some, hfield, Option.map_some]

/-- In the record of a form the **last field** is found. -/
theorem lookup_toRecord (hj : LastSpelled (form.fields.map Prod.fst) name j) (hfield : form.fields[j]? = some field) :
    form.toRecord.lookup name = some field.2 := by
  have hzip : form.fields = (form.fields.map Prod.fst).zip (form.fields.map Prod.snd) := List.zip_of_prod rfl rfl
  rw [toRecord, hzip]
  exact Entries.lookup_ofPairs_zip hj (by rw [List.getElem?_map, hfield, Option.map_some])

/-- **The views of a form** look at some field each under every name. -/
theorem exists_views (hname : name ∈ form.fields.map Prod.fst) : ∃ first last, form.Views name first last := by
  have hfield : ∀ {k : Nat} {found : Text}, (form.fields.map Prod.fst)[k]? = some found →
      ∃ field, form.fields[k]? = some field := by
    intro k found hk
    rw [List.getElem?_map, Option.map_eq_some_iff] at hk
    exact hk.imp fun _ h => h.1
  obtain ⟨i, hi⟩ := exists_firstAlike hname
  obtain ⟨j, hj⟩ := exists_lastSpelled hname
  obtain ⟨last, hlast⟩ := hfield hj.1
  obtain ⟨found, hfound, -⟩ := Option.map_eq_some_iff.mp ((List.getElem?_map ..).symm.trans hi.1)
  obtain ⟨first, hfirst⟩ := hfield hfound
  exact ⟨first, last, ⟨i, hi, hfirst⟩, ⟨j, hj, hlast⟩, get?_eq hi hfirst, lookup_toRecord hj hlast⟩

/-- The views of a form agree under a name exactly if both fields have **the same value**. -/
theorem Views.agree_iff (h : form.Views name first last) :
    form.get? name = form.toRecord.lookup name ↔ first.2 = last.2 := by
  rw [h.get, h.lookup, Option.some.injEq]

/-- If the names of a form differ up to case, the views look at **the same field**. -/
theorem Views.eq_of_nodup (h : form.Views name first last)
    (hnodup : ((form.fields.map Prod.fst).map Text.lower).Nodup) : first = last := by
  obtain ⟨i, hi, hfirst⟩ := h.atFirst
  obtain ⟨j, hj, hlast⟩ := h.atLast
  obtain rfl := hi.eq_of_nodup hnodup hj
  exact Option.some.inj (hfirst.symm.trans hlast)

end Form

/-! ### Grids -/

/-- **Where the views of a grid look** under a name: at the cells of the first column, and at those of the last
one. -/
structure Grid.Views (grid : Grid) (name : Text) (first last : List Text) : Prop where
  atFirst : ∃ i, FirstAlike grid.header name i ∧ grid.rows.map (·[i]?) = first.map some
  atLast : ∃ j, LastSpelled grid.header name j ∧ grid.rows.map (·[j]?) = last.map some
  column : (grid.columnIndex? name).bind grid.cellsAt? = some first
  lookup : grid.toRecords.mapM (·.lookup name) = some last

/-- What is taken of **every member** of a list is a list of what is taken. -/
theorem mapM_eq_some_iff {α β : Type} {f : α → Option β} {l : List α} {bs : List β} :
    l.mapM f = some bs ↔ l.map f = bs.map some := by
  induction l generalizing bs with
  | nil => cases bs <;> simp
  | cons a l ih => cases bs <;> simp [List.mapM_cons, Option.bind_eq_some_iff, ih]

namespace Grid

variable {grid : Grid} {name : Text} {first last : List Text}

/-- Rows as wide as the header have **a cell** in each of its columns. -/
theorem exists_cellsAt? (hwidth : ∀ row ∈ grid.rows, row.length = grid.header.length) {i : Nat}
    (hi : i < grid.header.length) : ∃ cells, grid.cellsAt? i = some cells := by
  have hcell : ∀ row ∈ grid.rows, row[i]? = some (row.getD i []) := by
    intro row hrow
    rw [List.getD_eq_getElem?_getD, List.getElem?_eq_getElem (by rw [hwidth row hrow]; exact hi), Option.getD_some]
  refine ⟨grid.rows.map (·.getD i []), mapM_eq_some_iff.mpr ?_⟩
  rw [List.map_map]
  exact List.map_congr_left hcell

/-- The records of a grid have the cells of the **last column**. -/
theorem mapM_toRecords (hwidth : ∀ row ∈ grid.rows, row.length = grid.header.length) {j : Nat}
    (hj : LastSpelled grid.header name j) : grid.toRecords.mapM (·.lookup name) = grid.cellsAt? j := by
  have hlt : j < grid.header.length := (List.getElem?_eq_some_iff.mp hj.1).1
  obtain ⟨cells, hcells⟩ := exists_cellsAt? hwidth hlt
  rw [hcells]
  rw [cellsAt?, mapM_eq_some_iff] at hcells
  rw [mapM_eq_some_iff, ← hcells, toRecords, List.map_map]
  refine List.map_congr_left fun row hrow => ?_
  have hcell := List.getElem?_eq_getElem (l := row) (i := j) (by rw [hwidth row hrow]; exact hlt)
  exact (Entries.lookup_ofPairs_zip hj hcell).trans hcell.symm

/-- **The views of a grid** look at some column each under every name, if all rows are as wide as the header. -/
theorem exists_views (hwidth : ∀ row ∈ grid.rows, row.length = grid.header.length) (hname : name ∈ grid.header) :
    ∃ first last, grid.Views name first last := by
  obtain ⟨i, hi⟩ := exists_firstAlike hname
  obtain ⟨j, hj⟩ := exists_lastSpelled hname
  have hlt : i < grid.header.length := by simpa using (List.getElem?_eq_some_iff.mp hi.1).1
  obtain ⟨first, hfirst⟩ := exists_cellsAt? hwidth hlt
  obtain ⟨last, hlast⟩ := exists_cellsAt? hwidth (List.getElem?_eq_some_iff.mp hj.1).1
  refine ⟨first, last, ⟨i, hi, mapM_eq_some_iff.mp hfirst⟩, ⟨j, hj, mapM_eq_some_iff.mp hlast⟩, ?_, ?_⟩
  · rw [columnIndex?, findIdx?_eq_some_iff_firstAlike.mpr hi, Option.bind_some, hfirst]
  · rw [mapM_toRecords hwidth hj, hlast]

/-- The views of a grid agree under a name exactly if both columns have **the same cells**. -/
theorem Views.agree_iff (h : grid.Views name first last) :
    (grid.columnIndex? name).bind grid.cellsAt? = grid.toRecords.mapM (·.lookup name) ↔ first = last := by
  rw [h.column, h.lookup, Option.some.injEq]

/-- If the names in the header differ up to case, the views look at **the same column**. -/
theorem Views.eq_of_nodup (h : grid.Views name first last) (hnodup : (grid.header.map Text.lower).Nodup) :
    first = last := by
  obtain ⟨i, hi, hfirst⟩ := h.atFirst
  obtain ⟨j, hj, hlast⟩ := h.atLast
  obtain rfl := hi.eq_of_nodup hnodup hj
  exact (List.map_inj_right fun _ _ => Option.some.inj).mp (hfirst.symm.trans hlast)

end Grid

/-! ### Blocks -/

namespace Block

/-- **The views of a block agree where they look at the same values.** Take any block that is read. Under each name
that it has, both views find something: the form or grid itself what stands at the first name that is the same up to
case, and the record or records made of it what stands at the last name that is spelled the same. So the views agree
under a name exactly if there is the same value, or the same column of cells, at both places, and under all names if
no two are the same up to case. -/
theorem read?_views (lines : List Text) :
    (∀ form, read? lines = .ok (some (.form form)) → ∀ name ∈ form.fields.map Prod.fst,
      ∃ first last, form.Views name first last ∧
        (form.get? name = form.toRecord.lookup name ↔ first.2 = last.2) ∧
        (((form.fields.map Prod.fst).map Text.lower).Nodup → first = last)) ∧
    ∀ grid, read? lines = .ok (some (.grid grid)) → ∀ name ∈ grid.header,
      ∃ first last, grid.Views name first last ∧
        ((grid.columnIndex? name).bind grid.cellsAt? = grid.toRecords.mapM (·.lookup name) ↔ first = last) ∧
        ((grid.header.map Text.lower).Nodup → first = last) := by
  refine ⟨fun form _ name hname => ?_, fun grid hread name hname => ?_⟩
  · obtain ⟨first, last, hviews⟩ := Form.exists_views hname
    exact ⟨first, last, hviews, hviews.agree_iff, hviews.eq_of_nodup⟩
  · obtain ⟨_, _, -, hspelled⟩ := spelledBy_of_read? hread
    cases hspelled with
    | grid _ _ hwidth _ =>
        obtain ⟨first, last, hviews⟩ := Grid.exists_views hwidth hname
        exact ⟨first, last, hviews, hviews.agree_iff, hviews.eq_of_nodup⟩

/-- The lines of a **price list**, where one name stands twice in the header, but for its case. -/
def priceLines : List Text := ["| Item | PRICE | item |", "| tea | 3 | loose |", "| coffee | 5 | ground |"]

/-- What the price list **is read as**. -/
def prices : Grid := ⟨["Item", "PRICE", "item"], [["tea", "3", "loose"], ["coffee", "5", "ground"]]⟩

/-- The views of the price list agree on its **prices** and not on its items. -/
theorem read?_views_prices :
    read? priceLines = .ok (some (.grid prices)) ∧ prices.Views "PRICE" ["3", "5"] ["3", "5"] ∧
      prices.Views "item" ["tea", "coffee"] ["loose", "ground"] := by
  have hread : read? priceLines = .ok (some (.grid prices)) := by decide
  obtain ⟨_, _, hprice, -⟩ := (read?_views priceLines).2 prices hread "PRICE" (by decide)
  obtain ⟨_, _, hitem, -⟩ := (read?_views priceLines).2 prices hread "item" (by decide)
  obtain rfl := Option.some.inj hprice.column
  obtain rfl := Option.some.inj hprice.lookup
  obtain rfl := Option.some.inj hitem.column
  obtain rfl := Option.some.inj hitem.lookup
  exact ⟨hread, hprice, hitem⟩

/-- A form with one name **twice**. -/
def repeatedField : Form := ⟨[("a", "1"), ("a", "2")]⟩

/-- A grid with one name **twice** in its header. -/
def repeatedColumn : Grid := ⟨["a", "a"], [["1", "2"]]⟩

/-- **Under a name that stands twice** the views find different values: the form and the grid the first one, and the
records the last one. -/
theorem read?_repeatedName :
    read? [": a : 1", ": a : 2"] = .ok (some (.form repeatedField)) ∧
      ("a" : Text) ∈ repeatedField.fields.map Prod.fst ∧
      repeatedField.get? "a" ≠ repeatedField.toRecord.lookup "a".toList ∧
      read? ["| a | a |", "| 1 | 2 |"] = .ok (some (.grid repeatedColumn)) ∧ ("a" : Text) ∈ repeatedColumn.header ∧
      (repeatedColumn.columnIndex? "a").bind repeatedColumn.cellsAt? ≠
        repeatedColumn.toRecords.mapM (·.lookup "a".toList) := by
  decide

end Block

end PlainSpec
