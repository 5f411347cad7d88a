import PlainSpec.Proofs.DistinctKeys
import PlainSpec.Proofs.WrittenBlocks
import PlainSpec.Proofs.WrittenLines
import PlainSpec.Specification.Files

/-!
# Written Documents

A **manuscript** is a document with what its writer is free to choose: the synonyms that open the feature
and the scenarios, and the lines into which the description is broken. It is written line by line, a
directive first. This module shows that the text of a manuscript in a built-in language is read as its
document.

The lines are followed from top to bottom. The state of the reader is described after each kind of line,
and after each run of them by induction: `addLines_describing` for the lines under a feature,
`addLines_steps` for the steps of a scenario with their blocks, `addLines_scenarios` for the scenarios. A
block ends where it should because the line after it, if there is one, begins with a word and not with a
mark (`endBefore_cons`).

## Main results

* `Document.ofText_manuscript`: the text of a manuscript is read as its document.
-/

namespace PlainSpec

/-! ### Lines that count -/

/-- A line **counts** if it is one line, not indented, and neither empty nor a comment. -/
structure Text.Counts (line : Text) : Prop where
  unbroken : Text.Unbroken line
  begins : ∃ c u, line = c :: u ∧ isBlank c = false ∧ c ≠ '#'

/-- A trimmed line that counts still **begins** as it did. -/
theorem Text.Counts.trim {line : Text} (h : Text.Counts line) :
    Text.trim line ≠ [] ∧ (Text.trim line).head? ≠ some '#' := by
  obtain ⟨-, c, u, rfl, hblank, hhash⟩ := h
  have htrim : Text.trim (c :: u) = c :: Text.trimRight u := by
    rw [Text.trim, Text.trimLeft_ink hblank, Text.trimRight_cons_ink hblank]
  rw [htrim]
  exact ⟨List.cons_ne_nil _ _, by simpa using hhash⟩

/-- Under a directive **all lines that count** are significant. -/
theorem significantLines_join {code : Text} (hcode : Text.Unbroken code) {lines : List Text}
    (hlines : ∀ line ∈ lines, Text.Counts line) :
    significantLines (Text.join "\n" (directiveLine code :: lines)) = lines.map Text.trim := by
  have hcut :
      Text.lines (Text.join "\n" (directiveLine code :: lines)) = directiveLine code :: lines := by
    refine Text.lines_join (List.forall_mem_cons.mpr ⟨⟨?_, ?_⟩, fun line hline => ?_⟩)
    · exact (Text.unbroken_append _ _).mpr ⟨by decide, hcode⟩
    · exact List.append_ne_nil_of_left_ne_nil (by decide) _
    · obtain ⟨hunbroken, c, u, rfl, -⟩ := hlines line hline
      exact ⟨hunbroken, List.cons_ne_nil _ _⟩
  have hcomment : (Text.trim (directiveLine code)).head? = some '#' := by
    have hink : Text.trim (directiveLine code) = '#' :: Text.trimRight (" language: " ++ code) := by
      have hline : directiveLine code = '#' :: (" language: " ++ code) := rfl
      rw [hline, Text.trim, Text.trimLeft_ink rfl, Text.trimRight_cons_ink rfl]
    rw [hink, List.head?_cons]
  rw [significantLines, hcut, List.map_cons, List.filter_cons_of_neg (by simp [hcomment]),
    List.filter_eq_self]
  intro line hline
  obtain ⟨raw, hraw, rfl⟩ := List.mem_map.mp hline
  obtain ⟨hne, hhash⟩ := (hlines raw hraw).trim
  simp [hne, hhash]

/-! ### Manuscripts -/

/-- The lines of a **step** and of the block under it. -/
def Step.lines (step : Step) : List Text := step.text :: step.block.elim [] Block.lines

/-- A step that can be **written** behind a step of the given kind: it is announced by a word of its kind,
or goes on from a step of its kind. -/
structure Step.Tidy (language : Language) (last : Option StepKind) (step : Step) : Prop where
  keyword :
    (∃ keyword, (step.kind, keyword) ∈ Reading.stepKeywords ∧ step.keyword ∈ language.words keyword) ∨
      (last = some step.kind ∧ step.keyword ∈ language.words .also)
  text : ∃ body, Text.Tidy body ∧ body ≠ [] ∧ step.text = stepLine step.keyword body
  block : ∀ block ∈ step.block, block.Tidy

/-- Steps that can be written **one after the other**, behind a step of the given kind. -/
inductive TidySteps (language : Language) : Option StepKind → List Step → Prop
  | nil {last : Option StepKind} : TidySteps language last []
  | cons {last : Option StepKind} {step : Step} {steps : List Step} :
      step.Tidy language last → TidySteps language (some step.kind) steps →
      TidySteps language last (step :: steps)

/-- A scenario and the word that **opens** it. -/
structure WrittenScenario where
  word : Text
  scenario : Scenario

namespace WrittenScenario

/-- The **lines** of a scenario. -/
def lines (s : WrittenScenario) : List Text :=
  titleLine s.word s.scenario.name :: s.scenario.steps.flatMap Step.lines

/-- A scenario that can be **written**. -/
structure Tidy (language : Language) (s : WrittenScenario) : Prop where
  word : s.word ∈ language.words .scenario
  name : Text.Tidy s.scenario.name
  nonempty : s.scenario.name ≠ []
  steps : TidySteps language none s.scenario.steps

end WrittenScenario

/-- A feature as it is **written**: the word that opens it, its name, its named headers and the lines of
its description. -/
structure WrittenFeature where
  word : Text
  name : Text
  headers : Record
  description : List Text

/-- A line of a **description**: it opens no scenario and is no named header. -/
structure DescriptionLine (language : Language) (line : Text) : Prop where
  tidy : Text.Tidy line
  nonempty : line ≠ []
  no_comment : line.head? ≠ some '#'
  no_title : title? (language.spellings .scenario) line = none
  no_header : namedHeader? line = none

namespace WrittenFeature

/-- The **feature** that is written. -/
def feature (f : WrittenFeature) : Feature := ⟨f.name, Text.join "\n" f.description, f.headers⟩

/-- The **lines** of a feature. -/
def lines (f : WrittenFeature) : List Text :=
  titleLine f.word f.name :: (f.headers.map headerLine ++ f.description)

/-- A feature that can be **written**. -/
structure Tidy (language : Language) (f : WrittenFeature) : Prop where
  word : f.word ∈ language.words .feature
  name : Text.Tidy f.name
  nonempty : f.name ≠ []
  headers : ∀ header ∈ f.headers, TidyHeader header
  different : (f.headers.map Prod.fst).Nodup
  description : ∀ line ∈ f.description, DescriptionLine language line

end WrittenFeature

/-- A **manuscript**: perhaps a feature, and scenarios. -/
structure Manuscript where
  feature : Option WrittenFeature
  scenarios : List WrittenScenario

namespace Manuscript

/-- The **document** that is written. -/
def document (m : Manuscript) (language : Language) : Document :=
  ⟨language.code, m.feature.map WrittenFeature.feature, m.scenarios.map WrittenScenario.scenario⟩

/-- The lines of a manuscript **under the directive**. -/
def lines (m : Manuscript) : List Text :=
  m.feature.elim [] WrittenFeature.lines ++ m.scenarios.flatMap WrittenScenario.lines

/-- The **text** of a manuscript in a language. -/
def text (m : Manuscript) (language : Language) : Text :=
  Text.join "\n" (directiveLine language.code :: m.lines)

/-- A manuscript that can be **written**. -/
structure Tidy (language : Language) (m : Manuscript) : Prop where
  feature : ∀ f ∈ m.feature, f.Tidy language
  scenarios : ∀ s ∈ m.scenarios, s.Tidy language

end Manuscript

/-! ### The lines of a manuscript count -/

variable {language : Language}

/-- A line of a word **counts**, if what comes behind the word is unbroken. -/
theorem counts_of_word (h : language.Distinct) {keyword : Keyword} {word : Text}
    (hword : word ∈ language.words keyword) {rest : Text} (hrest : Text.Unbroken rest) :
    Text.Counts (word ++ rest) := by
  obtain ⟨c, u, hcons, hopens⟩ := h.exists_ink hword
  refine ⟨(Text.unbroken_append _ _).mpr ⟨h.unbroken hword, hrest⟩, c, u ++ rest, ?_,
    isBlank_of_opensWords hopens, ?_⟩
  · rw [hcons, List.cons_append]
  · rintro rfl
    exact absurd hopens (by decide)

/-- The line of a **title** counts. -/
theorem counts_titleLine (h : language.Distinct) {keyword : Keyword} {word : Text}
    (hword : word ∈ language.words keyword) {title : Text} (htitle : Text.Tidy title) :
    Text.Counts (titleLine word title) := by
  rw [titleLine, List.append_assoc]
  exact counts_of_word h hword ((Text.unbroken_append _ _).mpr ⟨by decide, htitle.unbroken⟩)

/-- The line of a **step** counts. -/
theorem counts_stepLine (h : language.Distinct) {keyword : Keyword} {word : Text}
    (hword : word ∈ language.words keyword) {body : Text} (hbody : Text.Tidy body) :
    Text.Counts (stepLine word body) := by
  rw [stepLine, List.append_assoc]
  exact counts_of_word h hword ((Text.unbroken_append _ _).mpr ⟨by decide, hbody.unbroken⟩)

/-- The lines of a **block** count. -/
theorem counts_of_block {block : Block} (hblock : block.Tidy) :
    ∀ line ∈ block.lines, Text.Counts line := by
  intro line hline
  cases block with
  | form f =>
      obtain ⟨field, hfield, rfl⟩ := List.mem_map.mp hline
      have hfield := hblock.fields field hfield
      refine ⟨?_, ':', " " ++ field.1 ++ " : " ++ field.2, rfl, rfl, by decide⟩
      simp only [fieldLine, Text.unbroken_append]
      exact ⟨⟨⟨by decide, hfield.name.unbroken⟩, by decide⟩, hfield.value.unbroken⟩
  | grid g =>
      have hrow : ∃ row ∈ g.header :: g.rows, line = rowLine row := by
        rcases List.mem_cons.mp hline with rfl | hline
        · exact ⟨g.header, List.mem_cons_self, rfl⟩
        · obtain ⟨row, hrow, rfl⟩ := List.mem_map.mp hline
          exact ⟨row, List.mem_cons_of_mem _ hrow, rfl⟩
      obtain ⟨row, hrow, rfl⟩ := hrow
      refine ⟨unbroken_rowLine fun cell hcell => (hblock.cells row hrow cell hcell).unbroken, ?_⟩
      exact ⟨'|', _, rowLine_eq row, rfl, by decide⟩

/-- The keyword of a step that can be written is **a word of the vocabulary**. -/
theorem Step.Tidy.exists_keyword {last : Option StepKind} {step : Step} (h : step.Tidy language last) :
    ∃ keyword, step.keyword ∈ language.words keyword ∧ keyword.mark = ' ' := by
  rcases h.keyword with ⟨keyword, hmem, hword⟩ | ⟨-, hword⟩
  · refine ⟨keyword, hword, ?_⟩
    simp only [Reading.stepKeywords, List.mem_cons, Prod.mk.injEq, List.not_mem_nil, or_false] at hmem
    rcases hmem with ⟨-, rfl⟩ | ⟨-, rfl⟩ | ⟨-, rfl⟩ <;> rfl
  · exact ⟨.also, hword, rfl⟩

/-- The lines of **steps** count. -/
theorem counts_of_steps (h : language.Distinct) {last : Option StepKind} {steps : List Step}
    (hsteps : TidySteps language last steps) : ∀ line ∈ steps.flatMap Step.lines, Text.Counts line := by
  induction hsteps with
  | nil => exact fun line hline => absurd hline List.not_mem_nil
  | @cons last step steps hstep _ ih =>
      intro line hline
      rw [List.flatMap_cons, List.mem_append] at hline
      refine hline.elim (fun hline => ?_) (ih line)
      rcases List.mem_cons.mp hline with rfl | hline
      · obtain ⟨body, hbody, -, htext⟩ := hstep.text
        obtain ⟨keyword, hword, -⟩ := hstep.exists_keyword
        exact htext ▸ counts_stepLine h hword hbody
      · cases hblock : step.block with
        | none => exact absurd hline (by simp [hblock])
        | some block =>
            rw [hblock] at hline
            exact counts_of_block (hstep.block block hblock) line hline

/-- **All lines** of a manuscript count. -/
theorem Manuscript.Tidy.counts (h : language.Distinct) {m : Manuscript} (hm : m.Tidy language) :
    ∀ line ∈ m.lines, Text.Counts line := by
  intro line hline
  rw [Manuscript.lines, List.mem_append] at hline
  rcases hline with hline | hline
  · cases hfeature : m.feature with
    | none => exact absurd hline (by simp [hfeature])
    | some f =>
        have hf := hm.feature f hfeature
        rw [hfeature] at hline
        rcases List.mem_cons.mp hline with rfl | hline
        · exact counts_titleLine h hf.word hf.name
        rcases List.mem_append.mp hline with hline | hline
        · obtain ⟨header, hheader, rfl⟩ := List.mem_map.mp hline
          have hheader := hf.headers header hheader
          refine ⟨?_, '@', header.1 ++ ": " ++ header.2, rfl, rfl, by decide⟩
          simp only [headerLine, Text.unbroken_append]
          exact ⟨⟨⟨by decide, hheader.name.unbroken⟩, by decide⟩, hheader.value.unbroken⟩
        · have hline := hf.description line hline
          obtain ⟨c, u, rfl⟩ := List.exists_cons_of_ne_nil hline.nonempty
          refine ⟨hline.tidy.unbroken, c, u, rfl, ?_, fun hc => hline.no_comment (hc ▸ rfl)⟩
          exact ((Text.trim_eq_self_iff _).mp hline.tidy.trimmed).1 c rfl
  · obtain ⟨s, hs, hline⟩ := List.mem_flatMap.mp hline
    have hs := hm.scenarios s hs
    rcases List.mem_cons.mp hline with rfl | hline
    · exact counts_titleLine h hs.word hs.name
    · exact counts_of_steps h hs.steps line hline

/-! ### Where a block ends -/

/-- A line that begins as a line of words does **takes no block up**. -/
theorem endBefore_cons {c : Char} (hopens : opensWords c = true) (u : Text) (rest : List Text) :
    Block.EndBefore ((c :: u) :: rest) := by
  intro line hline
  obtain rfl : c :: u = line := by simpa using hline
  have hcolon : c ≠ ':' := by
    rintro rfl
    exact absurd hopens (by decide)
  have hpipe : c ≠ '|' := by
    rintro rfl
    exact absurd hopens (by decide)
  constructor
  · unfold isFormLine formField?
    split
    · next h => exact absurd (List.cons.inj h).1 hcolon
    · rfl
  · unfold isGridLine gridContent?
    split
    · next h => exact absurd (List.cons.inj h).1 hpipe
    · rfl

/-- A line of a word takes no block up. -/
theorem endBefore_of_word (h : language.Distinct) {keyword : Keyword} {word : Text}
    (hword : word ∈ language.words keyword) (t : Text) (rest : List Text) :
    Block.EndBefore ((word ++ t) :: rest) := by
  obtain ⟨c, u, rfl, hopens⟩ := h.exists_ink hword
  exact endBefore_cons hopens (u ++ t) rest

/-- The line of a title is **trimmed**. -/
theorem trim_titleLine (h : language.Distinct) {keyword : Keyword} {word : Text}
    (hword : word ∈ language.words keyword) {title : Text} (htitle : Text.Tidy title)
    (hne : title ≠ []) : Text.trim (titleLine word title) = titleLine word title := by
  obtain ⟨c, u, rfl, hopens⟩ := h.exists_ink hword
  exact Text.trim_cons_append (isBlank_of_opensWords hopens) (u ++ ": ") htitle.trimmed hne

/-- The line of a step is **trimmed**. -/
theorem Step.Tidy.trim (h : language.Distinct) {last : Option StepKind} {step : Step}
    (hstep : step.Tidy language last) : Text.trim step.text = step.text := by
  obtain ⟨body, hbody, hne, htext⟩ := hstep.text
  obtain ⟨keyword, hword, -⟩ := hstep.exists_keyword
  obtain ⟨c, u, hcons, hopens⟩ := h.exists_ink hword
  rw [htext, stepLine, hcons]
  exact Text.trim_cons_append (isBlank_of_opensWords hopens) (u ++ " ") hbody.trimmed hne

/-- The lines of steps **take no block up**, nor do those after them. -/
theorem endBefore_steps (h : language.Distinct) {last : Option StepKind} {steps : List Step}
    (hsteps : TidySteps language last steps) {rest : List Text} (hrest : Block.EndBefore rest) :
    Block.EndBefore ((steps.flatMap Step.lines).map Text.trim ++ rest) := by
  cases hsteps with
  | nil => exact hrest
  | cons hstep _ =>
      obtain ⟨body, -, -, htext⟩ := hstep.text
      obtain ⟨keyword, hword, -⟩ := hstep.exists_keyword
      rw [List.flatMap_cons, Step.lines, List.cons_append, List.map_cons, List.cons_append,
        hstep.trim h, htext, stepLine, List.append_assoc]
      exact endBefore_of_word h hword _ _

/-! ### Reading the lines -/

namespace Reading

/-- The reader in the middle of a **scenario**. -/
def within (r : Reading) (current : Scenario) (last : Option StepKind) : Reading :=
  { r with part := .scenario current last }

/-- The reader in the middle of a **description**. -/
def describing (r : Reading) (name : Text) (lines : List Text) : Reading :=
  { r with part := .description name lines }

/-- Lines that a block takes up are **passed over**. -/
theorem addLines_append (r : Reading) (lines rest : List Text) :
    r.addLines language lines.length (lines ++ rest) = r.addLines language 0 rest := by
  induction lines with
  | nil => rfl
  | cons line lines ih => rw [List.length_cons, List.cons_append, addLines, ih]

/-- The line of a title opens **a scenario**, whatever part is being read. -/
theorem addLine_titleLine (h : language.Distinct) (r : Reading) {word : Text}
    (hword : word ∈ language.words .scenario) {title : Text} (htitle : Text.Tidy title)
    (following : List Text) :
    r.addLine language (titleLine word title) following = .ok (r.openScenario title, 0) := by
  have hscenario := title?_titleLine h rfl hword htitle.trimmed
  have hfeature : title? (language.spellings .feature) (titleLine word title) = none := by
    have hmark : Keyword.scenario.mark = ':' := rfl
    rw [titleLine_eq hmark]
    exact title?_of_ne h (by decide) hword _
  unfold addLine
  cases r.part with
  | description name lines => simp only [hscenario]
  | opening | scenario current last => simp only [hscenario, hfeature]

/-- A step that can be written is **classified** by its kind and its keyword. -/
theorem classify_of_tidy (h : language.Distinct) {last : Option StepKind} {step : Step}
    (hstep : step.Tidy language last) :
    classify language last step.text = .ok (step.kind, step.keyword) := by
  obtain ⟨body, -, hne, htext⟩ := hstep.text
  rw [htext]
  rcases hstep.keyword with ⟨keyword, hmem, hword⟩ | ⟨hlast, hword⟩
  · simp only [stepKeywords, List.mem_cons, Prod.mk.injEq, List.not_mem_nil, or_false] at hmem
    rcases hmem with ⟨hkind, rfl⟩ | ⟨hkind, rfl⟩ | ⟨hkind, rfl⟩
    · have hgiven := stepKeyword?_stepLine h rfl hword hne
      simp only [classify, stepKeywords, List.findSome?_cons, hgiven, Option.map_some, hkind]
    · have hgiven := stepKeyword?_of_ne h rfl (show .given ≠ .when by decide) hword body
      have hwhen := stepKeyword?_stepLine h rfl hword hne
      simp only [classify, stepKeywords, List.findSome?_cons, hgiven, hwhen, Option.map_none,
        Option.map_some, hkind]
    · have hgiven := stepKeyword?_of_ne h rfl (show .given ≠ .thus by decide) hword body
      have hwhen := stepKeyword?_of_ne h rfl (show .when ≠ .thus by decide) hword body
      have hthus := stepKeyword?_stepLine h rfl hword hne
      simp only [classify, stepKeywords, List.findSome?_cons, hgiven, hwhen, hthus, Option.map_none,
        Option.map_some, hkind]
  · have hgiven := stepKeyword?_of_ne h rfl (show .given ≠ .also by decide) hword body
    have hwhen := stepKeyword?_of_ne h rfl (show .when ≠ .also by decide) hword body
    have hthus := stepKeyword?_of_ne h rfl (show .thus ≠ .also by decide) hword body
    have halso := stepKeyword?_stepLine h rfl hword hne
    simp only [classify, stepKeywords, List.findSome?_cons, List.findSome?_nil, hgiven, hwhen, hthus,
      halso, Option.map_none, hlast]

/-- **A step is taken up with its block**: the next line to be read is the one behind the block. -/
theorem addLine_step (h : language.Distinct) (r : Reading) (current : Scenario)
    {last : Option StepKind} {step : Step} (hstep : step.Tidy language last) {rest : List Text}
    (hrest : Block.EndBefore rest) :
    (r.within current last).addLine language step.text
        ((step.block.elim [] Block.lines).map Text.trim ++ rest) =
      .ok (r.within { current with steps := current.steps ++ [step] } (some step.kind),
        ((step.block.elim [] Block.lines).map Text.trim).length) := by
  obtain ⟨body, -, -, htext⟩ := hstep.text
  obtain ⟨keyword, hword, hmark⟩ := hstep.exists_keyword
  have hline : step.text = (step.keyword ++ [keyword.mark]) ++ body := by
    rw [htext, stepLine_eq hmark]
  have hfeature : title? (language.spellings .feature) step.text = none := by
    rw [hline]
    exact title?_of_ne h (by rintro rfl; exact absurd hmark (by decide)) hword body
  have hscenario : title? (language.spellings .scenario) step.text = none := by
    rw [hline]
    exact title?_of_ne h (by rintro rfl; exact absurd hmark (by decide)) hword body
  have hblock :
      Block.read? ((step.block.elim [] Block.lines).map Text.trim ++ rest) = .ok step.block := by
    cases hblock : step.block with
    | none => exact Block.read?_of_endBefore hrest
    | some block => exact Block.read?_lines (hstep.block block hblock) hrest
  have hsize :
      step.block.elim 0 Block.size = ((step.block.elim [] Block.lines).map Text.trim).length := by
    rw [List.length_map]
    cases step.block with
    | none => rfl
    | some block => exact block.length_lines.symm
  have hclassify := classify_of_tidy h hstep
  simp only [addLine, within, hfeature, hscenario, addStep, lastKind, hclassify, bind, Except.bind,
    hblock, hsize]
  rfl

/-- **The steps of a scenario are taken up one after the other.** -/
theorem addLines_steps (h : language.Distinct) {last : Option StepKind} {steps : List Step}
    (hsteps : TidySteps language last steps) (r : Reading) (current : Scenario) {rest : List Text}
    (hrest : Block.EndBefore rest) :
    ∃ last', (r.within current last).addLines language 0
        ((steps.flatMap Step.lines).map Text.trim ++ rest) =
      (r.within { current with steps := current.steps ++ steps } last').addLines language 0 rest := by
  induction hsteps generalizing current with
  | @nil last => exact ⟨last, by rw [List.append_nil]; rfl⟩
  | @cons last step steps hstep hsteps ih =>
      have hbefore := endBefore_steps h hsteps hrest
      have hline := addLine_step h r current hstep hbefore
      obtain ⟨last', hlast⟩ := ih { current with steps := current.steps ++ [step] }
      refine ⟨last', ?_⟩
      rw [List.flatMap_cons, Step.lines, List.cons_append, List.map_cons, List.map_append,
        List.cons_append, List.append_assoc, hstep.trim h, addLines, hline]
      simp only [addLines_append, hlast, List.append_assoc, List.singleton_append]

/-- **The scenarios are taken up one after the other**, behind whatever has been read before. -/
theorem addLines_scenarios (h : language.Distinct) {scenarios : List WrittenScenario}
    (hscenarios : ∀ s ∈ scenarios, s.Tidy language) (r : Reading) :
    ∃ r', r.addLines language 0 ((scenarios.flatMap WrittenScenario.lines).map Text.trim) = .ok r' ∧
      r'.close.feature = r.close.feature ∧
      r'.close.scenarios = r.close.scenarios ++ scenarios.map WrittenScenario.scenario := by
  induction scenarios generalizing r with
  | nil => exact ⟨r, rfl, rfl, (List.append_nil _).symm⟩
  | cons s scenarios ih =>
      obtain ⟨hs, hscenarios⟩ := List.forall_mem_cons.mp hscenarios
      have hopen := addLine_titleLine h r hs.word hs.name
      have hbefore : Block.EndBefore ((scenarios.flatMap WrittenScenario.lines).map Text.trim) := by
        cases scenarios with
        | nil => exact fun _ hline => absurd hline (by simp)
        | cons next scenarios =>
            have hnext := hscenarios next List.mem_cons_self
            rw [List.flatMap_cons, WrittenScenario.lines, List.cons_append, List.map_cons,
              trim_titleLine h hnext.word hnext.name hnext.nonempty, titleLine, List.append_assoc]
            exact endBefore_of_word h hnext.word _ _
      obtain ⟨last, hsteps⟩ := addLines_steps h hs.steps r.close ⟨s.scenario.name, []⟩ hbefore
      obtain ⟨r', hread, hfeature, hrest⟩ := ih hscenarios (r.close.within s.scenario last)
      refine ⟨r', ?_, hfeature, ?_⟩
      · rw [List.flatMap_cons, WrittenScenario.lines, List.cons_append, List.map_cons, List.map_append,
          trim_titleLine h hs.word hs.name hs.nonempty, addLines, hopen]
        exact hsteps.trans hread
      · rw [hrest, List.map_cons, ← List.singleton_append, ← List.append_assoc]
        rfl

/-- In a distinct vocabulary **an at sign** opens no scenario. -/
theorem title?_at (h : language.Distinct) (keyword : Keyword) (rest : Text) :
    title? (language.spellings keyword) ('@' :: rest) = none := by
  obtain ⟨hne, hwords⟩ := h keyword keyword.mem_all
  refine title?_eq_none ⟨'@', [], rfl, rfl⟩ (fun s hs => ?_) rest
  obtain ⟨-, -, hmisses, -⟩ := hwords s ((Language.mem_spellings hne).mp hs)
  exact hmisses

/-- Taking up named headers **changes the headers** and nothing else. -/
theorem foldl_addHeader (headers : Record) (r : Reading) :
    headers.foldl addHeader r =
      { r with headers := headers.foldl (fun all pair => Entries.put pair.1 pair.2 all) r.headers } := by
  induction headers generalizing r with
  | nil => rfl
  | cons header headers ih => exact ih (r.addHeader header)

/-- At the start named headers leave **the entries** that they make. -/
theorem foldl_addHeader_start (headers : Record) :
    headers.foldl addHeader start = { start with headers := Entries.ofPairs headers } :=
  foldl_addHeader headers start

/-- **The lines under a feature are taken up one after the other**, up to the header of a scenario: named
headers as such, and all others into the description. -/
theorem addLines_describing {lines : List Text}
    (hlines : ∀ line ∈ lines, title? (language.spellings .scenario) line = none) (r : Reading)
    (name : Text) (before rest : List Text) :
    (r.describing name before).addLines language 0 (lines ++ rest) =
      (((lines.filterMap namedHeader?).foldl addHeader r).describing name
        (before ++ lines.filter fun line => (namedHeader? line).isNone)).addLines language 0 rest := by
  induction lines generalizing r before with
  | nil => rw [List.filter_nil, List.append_nil]; rfl
  | cons line lines ih =>
      obtain ⟨htitle, hlines⟩ := List.forall_mem_cons.mp hlines
      rw [List.cons_append, addLines]
      cases hheader : namedHeader? line with
      | some header =>
          simp only [addLine, describing, htitle, hheader]
          rw [List.filterMap_cons_some hheader, List.filter_cons_of_neg (by simp [hheader])]
          exact ih hlines (r.addHeader header) before
      | none =>
          simp only [addLine, describing, htitle, hheader]
          rw [List.filterMap_cons_none hheader, List.filter_cons_of_pos (by simp [hheader])]
          have hrest := ih hlines r (before ++ [line])
          rw [List.append_assoc, List.singleton_append] at hrest
          exact hrest

/-- The lines of headers that can be written are read **as these headers**, and open no scenario. -/
theorem read_headerLines (h : language.Distinct) {headers : Record}
    (hheaders : ∀ header ∈ headers, TidyHeader header) :
    (∀ line ∈ (headers.map headerLine).map Text.trim, title? (language.spellings .scenario) line = none) ∧
      ((headers.map headerLine).map Text.trim).filterMap namedHeader? = headers ∧
      ((headers.map headerLine).map Text.trim).filter (fun line => (namedHeader? line).isNone) = [] := by
  induction headers with
  | nil => exact ⟨by simp, rfl, rfl⟩
  | cons header headers ih =>
      obtain ⟨hheader, hheaders⟩ := List.forall_mem_cons.mp hheaders
      obtain ⟨htitles, hread, hnone⟩ := ih hheaders
      have hline := namedHeader?_headerLine hheader
      have htitle : title? (language.spellings .scenario) (Text.trim (headerLine header)) = none := by
        rw [trim_headerLine hheader.value]
        exact title?_at h .scenario _
      rw [List.map_cons, List.map_cons, List.filterMap_cons_some hline, hread,
        List.filter_cons_of_neg (by simp [hline]), hnone]
      exact ⟨List.forall_mem_cons.mpr ⟨htitle, htitles⟩, rfl, rfl⟩

/-- The lines of a description are **no headers**, and open no scenario. -/
theorem read_descriptionLines {lines : List Text} (hlines : ∀ line ∈ lines, DescriptionLine language line) :
    (∀ line ∈ lines.map Text.trim, title? (language.spellings .scenario) line = none) ∧
      (lines.map Text.trim).filterMap namedHeader? = [] ∧
      (lines.map Text.trim).filter (fun line => (namedHeader? line).isNone) = lines := by
  induction lines with
  | nil => exact ⟨by simp, rfl, rfl⟩
  | cons line lines ih =>
      obtain ⟨hline, hlines⟩ := List.forall_mem_cons.mp hlines
      obtain ⟨htitles, hread, hall⟩ := ih hlines
      rw [List.map_cons, hline.tidy.trimmed, List.filterMap_cons_none hline.no_header, hread,
        List.filter_cons_of_pos (by simp [hline.no_header]), hall]
      exact ⟨List.forall_mem_cons.mpr ⟨hline.no_title, htitles⟩, rfl, rfl⟩

/-- **The lines of a feature are taken up**, as far as its description goes. -/
theorem addLines_feature (h : language.Distinct) {f : WrittenFeature} (hf : f.Tidy language)
    (rest : List Text) :
    start.addLines language 0 (f.lines.map Text.trim ++ rest) =
      ({ start with headers := f.headers }.describing f.name f.description).addLines language 0
        rest := by
  have htitle := title?_titleLine h rfl hf.word hf.name.trimmed
  obtain ⟨hheaderTitles, hheaders, hnone⟩ := read_headerLines h hf.headers
  obtain ⟨hdescriptionTitles, hnoHeader, hdescription⟩ := read_descriptionLines hf.description
  have hread := addLines_describing (List.forall_mem_append.mpr ⟨hheaderTitles, hdescriptionTitles⟩)
    start f.name [] rest
  rw [List.filterMap_append, hheaders, hnoHeader, List.append_nil, foldl_addHeader_start,
    Entries.ofPairs_eq_self hf.different, List.filter_append, hnone, hdescription, List.nil_append,
    List.nil_append, List.append_assoc] at hread
  rw [WrittenFeature.lines, List.map_cons, List.map_append, List.cons_append, List.append_assoc,
    trim_titleLine h hf.word hf.name hf.nonempty, addLines]
  have hopen : start.addLine language (titleLine f.word f.name)
      ((f.headers.map headerLine).map Text.trim ++ (f.description.map Text.trim ++ rest)) =
      .ok (start.describing f.name [], 0) := by
    simp only [addLine, start, htitle]
    rfl
  rw [hopen]
  exact hread

end Reading

/-! ### Documents -/

/-- **Parsing inverts writing.** Whatever the document, as long as its texts can be written: the text of a
manuscript in a built-in language is read as the document of the manuscript, word for word. -/
theorem Document.ofText_manuscript (hlanguage : language.IsBuiltIn) {m : Manuscript}
    (hm : m.Tidy language) :
    Document.ofText builtInLanguages (m.text language) = .ok (m.document language) := by
  obtain ⟨hdistinct, hne, hcode⟩ := hlanguage.checked
  have hlines : significantLines (m.text language) = m.lines.map Text.trim :=
    significantLines_join (fun c hc => (hcode c hc).2) (hm.counts hdistinct)
  have hlanguageCode : languageCode (m.text language) builtInLanguages.default = language.code := by
    have hblank : ∀ c ∈ language.code, isBlank c = false := fun c hc => (hcode c hc).1
    rw [Manuscript.text]
    cases m.lines with
    | nil =>
        rw [Text.join, ← List.append_nil (directiveLine language.code)]
        exact languageCode_append hne hblank (fun _ hc => absurd hc (by simp)) _
    | cons line lines =>
        rw [Text.join, List.append_assoc]
        · refine languageCode_append hne hblank (fun c hc => ?_) _
          obtain rfl : '\n' = c := by simpa using hc
          rfl
        · exact List.cons_ne_nil _ _
  have hread : ∃ r, Reading.start.addLines language 0 (m.lines.map Text.trim) = .ok r ∧
      r.close.feature = m.feature.map WrittenFeature.feature ∧
      r.close.scenarios = m.scenarios.map WrittenScenario.scenario := by
    rw [Manuscript.lines, List.map_append]
    cases hfeature : m.feature with
    | none => exact Reading.addLines_scenarios hdistinct hm.scenarios Reading.start
    | some f =>
        rw [Option.elim_some, Reading.addLines_feature hdistinct (hm.feature f hfeature)]
        exact Reading.addLines_scenarios hdistinct hm.scenarios _
  obtain ⟨r, hr, hfeature, hscenarios⟩ := hread
  have hdocument : r.document language.code = m.document language := by
    rw [Reading.document, hfeature, hscenarios, Manuscript.document]
  simp only [Document.ofText, hlanguageCode, hlanguage.2, hlines, Document.ofLines, hr, Except.map,
    hdocument]

/-- The built-in **German** vocabulary. -/
def german : Language :=
  ⟨"de", "Funktionalität|Funktion", "Szenario", "Angenommen|Gegeben sei", "Wenn", "Dann", "Und|Aber"⟩

/-- A feature on **payments**, one of its headers without a value. -/
def paymentsFeature : WrittenFeature :=
  ⟨"Funktion", "Zahlungen", [("team", "Konten"), ("seit-wann", "")], ["Geld: woher, wohin"]⟩

/-- A step with a **form**, and a value with a colon. -/
def accountStep : Step :=
  ⟨.context, "Gegeben sei ein Konto", "Gegeben sei",
    some (.form ⟨[("Inhaber", "Kasse: Nord"), ("Rest", "")]⟩)⟩

/-- A step that goes on with a **grid**, and a cell with a pipe that a backslash ends. -/
def entriesStep : Step :=
  ⟨.context, "Und die Posten", "Und", some (.grid ⟨["Text", "Summe"], [["a|b\\", "5"], ["", "7"]]⟩)⟩

/-- A step without a block, and pipes **in its body**. -/
def outcomeStep : Step := ⟨.outcome, "Dann | fehlt nichts |", "Dann", none⟩

/-- A **manuscript** with one scenario. -/
def payments : Manuscript :=
  ⟨some paymentsFeature, [⟨"Szenario", "Einzug", [accountStep, entriesStep, outcomeStep]⟩]⟩

/-- The manuscript on payments **can be written**, and so its text is read as its document. -/
theorem Document.ofText_manuscript_payments :
    german.IsBuiltIn ∧ payments.Tidy german ∧
      Document.ofText builtInLanguages (payments.text german) = .ok (payments.document german) := by
  have hlanguage : german.IsBuiltIn := ⟨by decide, rfl⟩
  have hdescription : DescriptionLine german "Geld: woher, wohin" :=
    ⟨by decide, by decide, by decide, by decide +kernel, rfl⟩
  have hteam : TidyHeader ("team", "Konten") := ⟨by decide, by decide, by decide, by decide, by decide⟩
  have hsince : TidyHeader ("seit-wann", "") := ⟨by decide, by decide, by decide, by decide, by decide⟩
  have hfeature : paymentsFeature.Tidy german :=
    ⟨by decide, by decide, by decide,
      List.forall_mem_cons.mpr ⟨hteam, List.forall_mem_singleton.mpr hsince⟩, by decide,
      List.forall_mem_singleton.mpr hdescription⟩
  have howner : TidyField ("Inhaber", "Kasse: Nord") := ⟨by decide, by decide, by decide, by decide⟩
  have hrest : TidyField ("Rest", "") := ⟨by decide, by decide, by decide, by decide⟩
  have hform : Form.Tidy ⟨[("Inhaber", "Kasse: Nord"), ("Rest", "")]⟩ :=
    ⟨by decide, List.forall_mem_cons.mpr ⟨howner, List.forall_mem_singleton.mpr hrest⟩⟩
  have hgrid : Grid.Tidy ⟨["Text", "Summe"], [["a|b\\", "5"], ["", "7"]]⟩ :=
    ⟨by decide, by decide, by decide, by decide⟩
  have haccount : accountStep.Tidy german none :=
    ⟨.inl ⟨.given, by decide, by decide⟩, ⟨"ein Konto", by decide, by decide, rfl⟩,
      fun _ hblock => Option.mem_some.mp hblock ▸ hform⟩
  have hentries : entriesStep.Tidy german (some .context) :=
    ⟨.inr ⟨rfl, by decide⟩, ⟨"die Posten", by decide, by decide, rfl⟩,
      fun _ hblock => Option.mem_some.mp hblock ▸ hgrid⟩
  have houtcome : outcomeStep.Tidy german (some .context) :=
    ⟨.inl ⟨.thus, by decide, by decide⟩, ⟨"| fehlt nichts |", by decide, by decide, rfl⟩,
      fun _ hblock => absurd hblock (by simp [outcomeStep])⟩
  have hscenario : WrittenScenario.Tidy german
      ⟨"Szenario", "Einzug", [accountStep, entriesStep, outcomeStep]⟩ :=
    ⟨by decide, by decide, by decide, .cons haccount (.cons hentries (.cons houtcome .nil))⟩
  have htidy : payments.Tidy german :=
    ⟨fun _ hf => Option.mem_some.mp hf ▸ hfeature, List.forall_mem_singleton.mpr hscenario⟩
  exact ⟨hlanguage, htidy, Document.ofText_manuscript hlanguage htidy⟩

end PlainSpec
