import PlainSpec.Proofs.LineKinds
import PlainSpec.Proofs.Paragraphs

/-!
# Scenarios behind other lines

Lines that begin with the header of a scenario mean the same wherever they stand. This module reads them behind
other lines and alone, and compares the two.

Two things could go wrong at the seam. A block at the end of the lines in front could go on behind it. But the
header of a scenario belongs to no block, and so the reader comes to the seam as if there were nothing behind
it (`Reading.addLines_append_of_ok`). And the reader could remember something of the lines in front. But from
the header on it reads a scenario, and then a reader that has read more takes up every line in the same way
(`Reading.addLine_behind`), and by induction all lines (`Reading.addLines_behind`). Only a second feature would
show what was there before.

## Main results

* `Block.read?_append`: a block ends where the next line belongs to none.
* `Document.ofLines_append`: scenarios read behind other lines are those read alone, and so are their faults.
-/

namespace PlainSpec

/-! ### Blocks in front of other lines -/

/-- A form **ends** where no form line comes next. -/
theorem Form.read_append {lines rest : List Text} (hrest : ∀ line ∈ rest.head?, isFormLine line = false) :
    Form.read (lines ++ rest) = Form.read lines := by
  induction lines with
  | nil =>
      cases rest with
      | nil => rfl
      | cons line rest =>
          have hline : formField? line = none := by simpa [isFormLine] using hrest line rfl
          simp [Form.read, hline]
  | cons line lines ih => simp only [List.cons_append, Form.read, ih]

/-- The rows of a grid **end** where no grid line comes next. -/
theorem Grid.readRows_append {width : Nat} {lines rest : List Text}
    (hrest : ∀ line ∈ rest.head?, isGridLine line = false) :
    Grid.readRows width (lines ++ rest) = Grid.readRows width lines := by
  induction lines with
  | nil =>
      cases rest with
      | nil => rfl
      | cons line rest =>
          have hline : gridCells? line = none := by simpa [isGridLine, gridCells?] using hrest line rfl
          simp [Grid.readRows, hline]
  | cons line lines ih => simp only [List.cons_append, Grid.readRows, ih]

namespace Block

/-- What comes next is a form only if it is one **without the lines behind**. -/
theorem formNext_append {lines rest : List Text} (hrest : EndBefore rest) :
    formNext (lines ++ rest) = formNext lines := by
  cases lines with
  | cons line lines => rfl
  | nil =>
      cases rest with
      | nil => rfl
      | cons line rest => exact (hrest line rfl).1

/-- What comes next is a grid only if it is one **without the lines behind**: its header alone makes none. -/
theorem gridNext_append {lines rest : List Text} (hrest : EndBefore rest) :
    gridNext (lines ++ rest) = gridNext lines := by
  rcases rest with _ | ⟨next, rest⟩
  · rw [List.append_nil]
  · have hnext : isGridLine next = false := (hrest next rfl).2
    rcases lines with _ | ⟨header, _ | ⟨row, lines⟩⟩
    · cases rest <;> simp [gridNext, hnext]
    · simp [gridNext, hnext]
    · rfl

/-- **A block ends where the next line belongs to none**: the lines behind it are not looked at. -/
theorem read?_append {lines rest : List Text} (hrest : EndBefore rest) :
    read? (lines ++ rest) = read? lines := by
  have hform : ∀ line ∈ rest.head?, isFormLine line = false := fun line hline => (hrest line hline).1
  have hgrid : ∀ line ∈ rest.head?, isGridLine line = false := fun line hline => (hrest line hline).2
  cases lines with
  | nil => exact read?_of_endBefore hrest
  | cons header following =>
      have hnext : gridNext (header :: following ++ rest) = gridNext (header :: following) := gridNext_append hrest
      rw [read?.eq_def, read?.eq_def (header :: following), formNext_append hrest, Form.read_append hform]
      simp only [List.cons_append, ← hnext, Grid.read, Grid.readRows_append hgrid]

end Block

/-! ### The reader in front of a seam -/

namespace Reading

variable {language : Language} {r r' s s' : Reading} {line title : Text} {following rest : List Text}

/-- A line is taken up **without regard to lines** that belong to no block. -/
theorem addLine_append (hrest : Block.EndBefore rest) :
    r.addLine language line (following ++ rest) = r.addLine language line following := by
  have hstep : addStep language r line (following ++ rest) = addStep language r line following := by
    rw [addStep, addStep, Block.read?_append hrest]
  rw [addLine, addLine, hstep]

/-- A line takes **no more lines** with it than there are. -/
theorem skip_le_of_addLine {skip : Nat} (h : r.addLine language line following = .ok (r', skip)) :
    skip ≤ following.length := by
  -- only a step takes lines with it, those of its block
  have hstep : addStep language r line following = .ok (r', skip) → skip ≤ following.length := by
    intro hstep
    obtain ⟨-, -, step, -, -, -, -, rfl, hspelled⟩ := addStep_eq_ok hstep
    have htaken := hspelled.length_lines
    rw [List.length_take] at htaken
    omega
  unfold addLine at h
  split at h
  · split at h <;> obtain ⟨-, rfl⟩ := Prod.mk.inj (Except.ok.inj h) <;> exact Nat.zero_le _
  · split at h
    · next title _ =>
      cases hopen : r.openFeature title with
      | error fault => simp [hopen, Except.map] at h
      | ok opened =>
          obtain ⟨-, rfl⟩ : opened = r' ∧ 0 = skip := by simpa [hopen, Except.map] using h
          exact Nat.zero_le _
    · obtain ⟨-, rfl⟩ := Prod.mk.inj (Except.ok.inj h)
      exact Nat.zero_le _
    · split at h
      · obtain ⟨-, rfl⟩ := Prod.mk.inj (Except.ok.inj h)
        exact Nat.zero_le _
      · exact hstep h

/-- **The reader comes to a seam** as if nothing stood behind it, if what stands there belongs to no block. -/
theorem addLines_append_of_ok {skip : Nat} {lines : List Text} (hrest : Block.EndBefore rest)
    (hskip : skip ≤ lines.length) (h : r.addLines language skip lines = .ok r') :
    r.addLines language skip (lines ++ rest) = r'.addLines language 0 rest := by
  induction lines generalizing r skip with
  | nil =>
      obtain rfl : skip = 0 := Nat.le_zero.mp hskip
      obtain rfl : r = r' := Except.ok.inj h
      rfl
  | cons line lines ih =>
      cases skip with
      | succ skip => exact ih (Nat.le_of_succ_le_succ hskip) h
      | zero =>
          rw [addLines] at h
          rw [List.cons_append, addLines, addLine_append hrest]
          cases hline : r.addLine language line lines with
          | error fault => simp [hline] at h
          | ok found =>
              simp only [hline] at h
              exact ih (skip_le_of_addLine hline) h

/-! ### The reader behind a seam -/

/-- What one reader has read, **behind** what another one has read before. -/
def behind (r s : Reading) : Reading :=
  { s with feature := r.close.feature, headers := r.headers, scenarios := r.close.scenarios ++ s.scenarios }

/-- Whether a **scenario** is being read. -/
def InScenario (r : Reading) : Prop := ∃ current last, r.part = .scenario current last

/-- The header of a scenario **opens it**, whatever part is being read. -/
theorem addLine_of_title (r : Reading) (hfeature : title? (language.spellings .feature) line = none)
    (hscenario : title? (language.spellings .scenario) line = some title) (following : List Text) :
    r.addLine language line following = .ok (r.openScenario title, 0) := by
  unfold addLine
  cases r.part with
  | description name lines => simp only [hscenario]
  | opening | scenario current last => simp only [hscenario, hfeature]

/-- A scenario that is opened **first thing** is opened behind what has been read before. -/
theorem behind_openScenario_start (r : Reading) (title : Text) :
    r.behind (start.openScenario title) = r.openScenario title := by
  have hheaders : (r.openScenario title).headers = r.headers := headers_close r
  rw [behind, ← hheaders]
  simp [openScenario, start, close]

/-- In a scenario **a line is taken up in the same way** by a reader that has read something before, unless
it opens a feature. -/
theorem addLine_behind (hs : s.InScenario) (hfeature : title? (language.spellings .feature) line = none) :
    (r.behind s).addLine language line following =
      (s.addLine language line following).map fun found => (r.behind found.1, found.2) := by
  obtain ⟨current, last, hpart⟩ := hs
  have hbehind : (r.behind s).part = .scenario current last := hpart
  cases hscenario : title? (language.spellings .scenario) line with
  | some title =>
      have hopen : (r.behind s).openScenario title = r.behind (s.openScenario title) := by
        simp [openScenario, close, hpart, behind, List.append_assoc]
      rw [addLine_of_title _ hfeature hscenario, addLine_of_title _ hfeature hscenario, hopen]
      rfl
  | none =>
      have hstep : ∀ q : Reading, q.part = .scenario current last →
          q.addLine language line following = q.addStep language line following := by
        intro q hq
        simp only [addLine, hq, hfeature, hscenario]
      rw [hstep _ hbehind, hstep _ hpart]
      simp only [addStep, lastKind, hbehind, hpart]
      cases classify language last line with
      | error fault => rfl
      | ok found =>
          cases Block.read? following with
          | error fault => rfl
          | ok block => rfl

/-- In a scenario a line **leads to a scenario**, unless it opens a feature. -/
theorem InScenario.addLine {skip : Nat} (hs : s.InScenario)
    (hfeature : title? (language.spellings .feature) line = none)
    (h : s.addLine language line following = .ok (s', skip)) : s'.InScenario := by
  cases hscenario : title? (language.spellings .scenario) line with
  | some title =>
      rw [addLine_of_title _ hfeature hscenario] at h
      obtain ⟨rfl, -⟩ := Prod.mk.inj (Except.ok.inj h)
      exact ⟨_, _, rfl⟩
  | none =>
      obtain ⟨current, last, hpart⟩ := hs
      simp only [Reading.addLine, hpart, hfeature, hscenario] at h
      obtain ⟨_, _, _, -, -, -, rfl, -⟩ := addStep_eq_ok h
      exact ⟨_, _, rfl⟩

/-- **All lines are taken up in the same way** in a scenario, whatever has been read before, as long as none
of them opens a feature. -/
theorem addLines_behind {skip : Nat} {lines : List Text} (hs : s.InScenario)
    (hfeature : ∀ line ∈ lines, title? (language.spellings .feature) line = none) :
    (r.behind s).addLines language skip lines = (s.addLines language skip lines).map r.behind := by
  induction lines generalizing s skip with
  | nil => rfl
  | cons line lines ih =>
      obtain ⟨hline, hlines⟩ := List.forall_mem_cons.mp hfeature
      cases skip with
      | succ skip => exact ih hs hlines
      | zero =>
          rw [addLines, addLines, addLine_behind hs hline]
          cases hfound : s.addLine language line lines with
          | error fault => rfl
          | ok found => exact ih (hs.addLine hline hfound) hlines

/-- Reading lines that open no feature **stays in scenarios**. -/
theorem InScenario.addLines {skip : Nat} {lines : List Text} (hs : s.InScenario)
    (hfeature : ∀ line ∈ lines, title? (language.spellings .feature) line = none)
    (h : s.addLines language skip lines = .ok s') : s'.InScenario := by
  induction lines generalizing s skip with
  | nil => exact Except.ok.inj h ▸ hs
  | cons line lines ih =>
      obtain ⟨hline, hlines⟩ := List.forall_mem_cons.mp hfeature
      cases skip with
      | succ skip => exact ih hs hlines h
      | zero =>
          rw [Reading.addLines] at h
          cases hfound : s.addLine language line lines with
          | error fault => simp [hfound] at h
          | ok found =>
              simp only [hfound] at h
              exact ih (hs.addLine hline hfound) hlines h

/-- The document behind another one has **the scenarios of both**, and all else of the first. -/
theorem InScenario.document_behind (hs : s.InScenario) (r : Reading) (code : Text) :
    (r.behind s).document code =
      { r.document code with
        scenarios := (r.document code).scenarios ++ (s.document code).scenarios } := by
  obtain ⟨current, last, hpart⟩ := hs
  simp [document, behind, close, hpart, List.append_assoc]

end Reading

/-! ### Documents -/

/-- **Scenarios mean the same wherever they stand.** Take lines that are read as a document, and further lines
that begin with the header of a scenario and open no feature. Together they are read exactly if the further
lines are read alone, and then as the document with the further scenarios at its end; a fault in the further
lines is the same fault, with the same line, whether they stand alone or not. -/
theorem Document.ofLines_append {language : Language} (hlanguage : language.IsBuiltIn)
    {before after : List Text} {document : Document}
    (hbefore : Document.ofLines language before = .ok document)
    (hscenario : ∃ header ∈ after.head?, (title? (language.spellings .scenario) header).isSome = true)
    (hfeature : ∀ line ∈ after, title? (language.spellings .feature) line = none) :
    Document.ofLines language (before ++ after) = (Document.ofLines language after).map fun further =>
      { document with scenarios := document.scenarios ++ further.scenarios } := by
  obtain ⟨header, hhead, htitle⟩ := hscenario
  obtain ⟨lines, rfl⟩ := List.head?_eq_some_iff.mp hhead
  obtain ⟨title, htitle⟩ := Option.isSome_iff_exists.mp htitle
  obtain ⟨hheader, hlines⟩ := List.forall_mem_cons.mp hfeature
  have hrest : Block.EndBefore (header :: lines) :=
    hlanguage.apart.endBefore (hlanguage.apart.begins_of_title? (by rw [htitle]; rfl)) lines
  have hopen : ∀ r : Reading, r.addLines language 0 (header :: lines) =
      (r.openScenario title).addLines language 0 lines := by
    intro r
    rw [Reading.addLines, r.addLine_of_title hheader htitle]
  have hin : (Reading.start.openScenario title).InScenario := ⟨_, _, rfl⟩
  obtain ⟨r, hread, rfl⟩ := exists_reading hbefore
  rw [ofLines, ofLines, Reading.addLines_append_of_ok hrest (Nat.zero_le _) hread, hopen r,
    hopen Reading.start, ← r.behind_openScenario_start, Reading.addLines_behind hin hlines]
  cases hafter : (Reading.start.openScenario title).addLines language 0 lines with
  | error fault => rfl
  | ok s => exact congrArg Except.ok ((hin.addLines hlines hafter).document_behind r language.code)

/-- Lines on **incoming payments**, a form at their end. -/
def incomingLines : List Text :=
  ["Feature: Payments", "@team: Accounts", "Scenario: Money comes in", "Given an account", ": Owner: Ann"]

/-- Lines on **outgoing payments**. -/
def outgoingLines : List Text := ["Scenario 2: Money goes out", "When the card is used", "Then it works"]

/-- What the incoming payments **are read as**. -/
def incoming : Document :=
  ⟨"en", some ⟨"Payments", "", [("team", "Accounts")]⟩,
    [⟨"Money comes in", [⟨.context, "Given an account", "Given", some (.form ⟨[("Owner", "Ann")]⟩)⟩]⟩]⟩

/-- The outgoing payments are read **behind the incoming ones** as they are read alone. -/
theorem Document.ofLines_append_payments :
    english.IsBuiltIn ∧ Document.ofLines english incomingLines = .ok incoming ∧
      Document.ofLines english (incomingLines ++ outgoingLines) =
        (Document.ofLines english outgoingLines).map fun further =>
          { incoming with scenarios := incoming.scenarios ++ further.scenarios } := by
  have hlanguage : english.IsBuiltIn := ⟨by decide, rfl⟩
  have hbefore : Document.ofLines english incomingLines = .ok incoming := by
    have hsome : (Document.ofLines english incomingLines).toOption = some incoming := by decide +kernel
    exact eq_ok_of_toOption hsome
  exact ⟨hlanguage, hbefore,
    Document.ofLines_append hlanguage hbefore ⟨_, rfl, by decide +kernel⟩ (by decide +kernel)⟩

end PlainSpec
