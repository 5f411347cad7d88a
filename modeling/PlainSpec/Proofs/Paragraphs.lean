import Mathlib.Data.List.Induction
import PlainSpec.Proofs.BlockLines
import PlainSpec.Proofs.DistinctKeys
import PlainSpec.Specification.Files

/-!
# The paragraphs of a specification

A document is read line by line, and the lines of a block are passed over in one go. This module cuts the
significant lines of a specification into **paragraphs**, each a line of one kind and, under a step, the
lines of its block. It shows that the paragraphs of a text that is read make up all of its lines in their
order, and that the document says what the paragraphs say.

* `Paragraph.Reads` says what a line is, in the part of the document where it stands.
* `Cut` goes through the lines of a text paragraph by paragraph.
* `Document.ToldBy` says which document a list of paragraphs tells.

The two meet in `Reading.After`, which ties the state of the reader to the paragraphs behind it. One line
with what it takes along is one paragraph (`Reading.exists_paragraph`), and by induction on the lines that
are left a whole text is a list of them (`Reading.exists_cut`).

## Main results

* `Document.ofText_paragraphs`: a text that is read is a list of paragraphs that tell its document.
-/

namespace PlainSpec

/-! ### Paragraphs -/

/-- A **paragraph** of a specification. All but a step are one line. -/
inductive Paragraph
  | feature (line name : Text)
  | header (line : Text) (header : Text × Text)
  | description (line : Text)
  | scenario (line name : Text)
  | step (step : Step) (block : List Text)

/-- The **lines** of a paragraph. -/
def Paragraph.lines : Paragraph → List Text
  | feature line _ => [line]
  | header line _ => [line]
  | description line => [line]
  | scenario line _ => [line]
  | step s block => s.text :: block

/-- Where a line stands: **before** any feature or scenario, under a feature, or in a scenario behind a step
of some kind. -/
inductive Region
  | opening
  | description
  | scenario (last : Option StepKind)

/-- Whether a line is **announced** by a keyword of its own. -/
def Language.Announces (language : Language) (line : Text) : Prop :=
  ∃ entry ∈ Reading.stepKeywords, (stepKeyword? (language.spellings entry.2) line).isSome

/-- How a step comes by its **kind**, behind a step of the given kind: by the first keyword that announces
its line, or else by going on from the step before. -/
inductive Step.Follows (language : Language) (last : Option StepKind) (step : Step) : Prop
  | announced {before after : List (StepKind × Keyword)} {keyword : Keyword} :
      Reading.stepKeywords = before ++ (step.kind, keyword) :: after →
      (∀ entry ∈ before, stepKeyword? (language.spellings entry.2) step.text = none) →
      stepKeyword? (language.spellings keyword) step.text = some step.keyword →
      Follows language last step
  | continued :
      ¬language.Announces step.text →
      stepKeyword? (language.spellings .also) step.text = some step.keyword →
      last = some step.kind →
      Follows language last step

/-- What a paragraph **is** in the region where it stands, given the lines behind it, and the region that it
leads to. A feature is opened once only, which is not said here. -/
inductive Paragraph.Reads (language : Language) (rest : List Text) :
    Region → Paragraph → Region → Prop
  | feature {region : Region} {line name : Text} :
      region ≠ .description →
      title? (language.spellings .feature) line = some name →
      Reads language rest region (.feature line name) .description
  | header {region : Region} {line : Text} {header : Text × Text} :
      region = .description ∨
        region = .opening ∧ title? (language.spellings .feature) line = none →
      title? (language.spellings .scenario) line = none →
      namedHeader? line = some header →
      Reads language rest region (.header line header) region
  | description {line : Text} :
      title? (language.spellings .scenario) line = none →
      namedHeader? line = none →
      Reads language rest .description (.description line) .description
  | scenario {region : Region} {line name : Text} :
      region = .description ∨ title? (language.spellings .feature) line = none →
      title? (language.spellings .scenario) line = some name →
      Reads language rest region (.scenario line name) (.scenario none)
  | step {last : Option StepKind} {step : Step} {block : List Text} :
      title? (language.spellings .feature) step.text = none →
      title? (language.spellings .scenario) step.text = none →
      step.Follows language last →
      Block.SpelledBy step.block block rest →
      block.length = step.block.elim 0 Block.size →
      Reads language rest (.scenario last) (.step step block) (.scenario (some step.kind))

/-- Lines that are **cut into paragraphs**, from a region on: none is left out, and none is used twice. -/
inductive Cut (language : Language) : Region → List Text → List Paragraph → Prop
  | nil {region : Region} : Cut language region [] []
  | cons {region next : Region} {p : Paragraph} {rest : List Text} {ps : List Paragraph} :
      p.Reads language rest region next → Cut language next rest ps →
      Cut language region (p.lines ++ rest) (p :: ps)

/-- The paragraphs of a text make up **its lines, in order**. -/
theorem Cut.flatMap_lines {language : Language} {region : Region} {lines : List Text}
    {ps : List Paragraph} (h : Cut language region lines ps) : ps.flatMap Paragraph.lines = lines := by
  induction h with
  | nil => rfl
  | cons _ _ ih => rw [List.flatMap_cons, ih]

/-! ### What paragraphs tell -/

namespace Paragraph

/-- The name of the **feature** that a paragraph opens. -/
def featureName? : Paragraph → Option Text
  | feature _ name => some name
  | _ => none

/-- The **named header** of a paragraph. -/
def header? : Paragraph → Option (Text × Text)
  | header _ named => some named
  | _ => none

/-- The line that a paragraph adds to the **description**. -/
def description? : Paragraph → Option Text
  | description line => some line
  | _ => none

/-- Whether a paragraph is about a **scenario**. -/
def isAboutScenario : Paragraph → Bool
  | scenario _ _ => true
  | step _ _ => true
  | _ => false

end Paragraph

/-- The **scenarios** that paragraphs tell: each is opened by a paragraph of its name, and each step is the
next one of the latest scenario. -/
inductive ScenariosTold : List Paragraph → List Scenario → Prop
  | nil : ScenariosTold [] []
  | opened {ps : List Paragraph} {scenarios : List Scenario} {line name : Text} :
      ScenariosTold ps scenarios →
      ScenariosTold (ps ++ [.scenario line name]) (scenarios ++ [⟨name, []⟩])
  | step {ps : List Paragraph} {scenarios : List Scenario} {latest : Scenario} {step : Step}
      {block : List Text} :
      ScenariosTold ps (scenarios ++ [latest]) →
      ScenariosTold (ps ++ [.step step block])
        (scenarios ++ [{ latest with steps := latest.steps ++ [step] }])
  | other {ps : List Paragraph} {scenarios : List Scenario} {p : Paragraph} :
      ScenariosTold ps scenarios → p.isAboutScenario = false → ScenariosTold (ps ++ [p]) scenarios

/-- The **feature** that paragraphs tell: one of them opens it, the lines of its description are joined, and
of several headers of one name the last one counts. -/
structure Feature.ToldBy (ps : List Paragraph) (feature : Feature) : Prop where
  name : ps.filterMap Paragraph.featureName? = [feature.name]
  description : feature.description = Text.join "\n" (ps.filterMap Paragraph.description?)
  different : (feature.headers.map Prod.fst).Nodup
  headers : ∀ name, feature.headers.lookup name = (ps.filterMap Paragraph.header?).reverse.lookup name

/-- The **document** that paragraphs tell. Without a feature none of them opens one, and none is part of a
description. -/
structure Document.ToldBy (ps : List Paragraph) (document : Document) : Prop where
  scenarios : ScenariosTold ps document.scenarios
  feature : ∀ feature ∈ document.feature, feature.ToldBy ps
  no_feature : document.feature = none →
    ps.filterMap Paragraph.featureName? = [] ∧ ps.filterMap Paragraph.description? = []

/-- The steps of a scenario each **follow the step before**, the first one nothing. -/
def Scenario.Follows (language : Language) (scenario : Scenario) : Prop :=
  ∀ before step after, scenario.steps = before ++ step :: after →
    step.Follows language (before.getLast?.map Step.kind)

/-- A step that follows nothing or a step of some customary kind **has a customary kind**. -/
theorem Step.Follows.kind_mem_all {language : Language} {last : Option StepKind} {step : Step}
    (h : step.Follows language last) (hlast : ∀ kind ∈ last, kind ∈ StepKind.all) :
    step.kind ∈ StepKind.all := by
  cases h with
  | @announced before after keyword hsplit _ _ =>
      have hmem : (step.kind, keyword) ∈ Reading.stepKeywords := by simp [hsplit]
      have hkinds : ∀ entry ∈ Reading.stepKeywords, entry.1 ∈ StepKind.all := by decide
      exact hkinds _ hmem
  | continued _ _ hkind => exact hlast step.kind hkind

/-- The steps of a scenario that each follow the step before are **contexts, actions and outcomes**. -/
theorem Scenario.Follows.kind_mem_all {language : Language} {scenario : Scenario}
    (h : scenario.Follows language) : ∀ step ∈ scenario.steps, step.kind ∈ StepKind.all := by
  have hbefore : ∀ before step after, scenario.steps = before ++ step :: after →
      step.kind ∈ StepKind.all := by
    intro before
    induction before using List.reverseRecOn with
    | nil =>
        intro step after hsteps
        exact (h [] step after hsteps).kind_mem_all (by simp)
    | append_singleton before previous ih =>
        intro step after hsteps
        have hprevious : previous.kind ∈ StepKind.all :=
          ih previous (step :: after) (by rw [hsteps, List.append_assoc, List.singleton_append])
        exact (h _ step after hsteps).kind_mem_all (by simpa using hprevious)
  intro step hmem
  obtain ⟨before, after, hsteps⟩ := List.append_of_mem hmem
  exact hbefore before step after hsteps

/-! ### The reader and the paragraphs behind it -/

namespace Reading

variable {language : Language}

/-- The **region** that the reader is in. -/
def region (r : Reading) : Region :=
  match r.part with
  | .opening => .opening
  | .description _ _ => .description
  | .scenario _ last => .scenario last

/-- The reader **after some paragraphs**: if it stopped here, the document would be the one that these
tell. -/
structure After (language : Language) (ps : List Paragraph) (r : Reading) : Prop where
  scenarios : ScenariosTold ps r.close.scenarios
  feature : ∀ feature ∈ r.close.feature,
    ps.filterMap Paragraph.featureName? = [feature.name] ∧
      feature.description = Text.join "\n" (ps.filterMap Paragraph.description?) ∧
      feature.headers = r.headers
  no_feature : r.close.feature = none →
    ps.filterMap Paragraph.featureName? = [] ∧ ps.filterMap Paragraph.description? = []
  headers : r.headers = Entries.ofPairs (ps.filterMap Paragraph.header?)
  lines : ∀ name lines, r.part = .description name lines →
    ps.filterMap Paragraph.description? = lines
  opening : r.part = .opening → r.feature = none
  last : ∀ current last, r.part = .scenario current last →
    last = current.steps.getLast?.map Step.kind
  follows : ∀ scenario ∈ r.close.scenarios, scenario.Follows language

/-- Closing leaves **the headers** alone. -/
@[simp] theorem headers_close (r : Reading) : r.close.headers = r.headers := by
  unfold close
  cases r.part <;> rfl

/-- A named header leaves **the scenarios** alone. -/
theorem scenarios_close_addHeader (r : Reading) (header : Text × Text) :
    (r.addHeader header).close.scenarios = r.close.scenarios := by
  simp only [close, addHeader]
  cases r.part <;> rfl

/-- **Nothing** is told at the start. -/
theorem After.start : After language [] start := by
  constructor <;> simp [Reading.start, close, ScenariosTold.nil, Entries.ofPairs]

/-- **A scenario is opened.** -/
theorem After.openScenario {ps : List Paragraph} {r : Reading} (h : After language ps r)
    (line name : Text) :
    After language (ps ++ [.scenario line name]) (r.openScenario name) := by
  have hnew : (⟨name, []⟩ : Scenario).Follows language := fun before step after hsteps =>
    absurd hsteps.symm (by simp)
  have hclose : (r.openScenario name).close =
      ⟨r.close.feature, r.headers, r.close.scenarios ++ [⟨name, []⟩], .opening⟩ := by
    rw [← headers_close r]
    rfl
  have hheaders : (r.openScenario name).headers = r.headers := r.headers_close
  have hpart : (r.openScenario name).part = .scenario ⟨name, []⟩ none := rfl
  constructor
  case scenarios =>
    rw [hclose]
    exact .opened h.scenarios
  case feature =>
    rw [hclose, hheaders]
    simpa [Paragraph.featureName?, Paragraph.description?, List.filterMap_cons] using h.feature
  case no_feature =>
    rw [hclose]
    simpa [Paragraph.featureName?, Paragraph.description?] using h.no_feature
  case headers =>
    rw [hheaders]
    simpa [Paragraph.header?, List.filterMap_cons] using h.headers
  case lines => simp [hpart]
  case opening => simp [hpart]
  case last => simp [hpart]
  case follows =>
    rw [hclose]
    exact List.forall_mem_append.mpr ⟨h.follows, List.forall_mem_singleton.mpr hnew⟩

/-- Only where there is **no feature** one is opened. -/
theorem openFeature_eq_ok {r r' : Reading} {name : Text} (h : r.openFeature name = .ok r') :
    r.close.feature = none ∧ r' = { r.close with part := .description name [] } := by
  unfold openFeature at h
  split at h
  · exact absurd h (by simp)
  · next hnone =>
    refine ⟨?_, (Except.ok.inj h).symm⟩
    unfold hasFeature at hnone
    unfold close
    split at hnone
    · exact absurd rfl hnone
    · next hpart =>
      cases hr : r.part with
      | description lines name => exact absurd hr (hpart lines name)
      | opening => simpa using hnone
      | scenario current last => simpa using hnone

/-- **A feature is opened**, if there is none. -/
theorem After.openFeature {ps : List Paragraph} {r r' : Reading} (h : After language ps r)
    (line : Text) {name : Text} (hopen : r.openFeature name = .ok r') :
    After language (ps ++ [.feature line name]) r' := by
  obtain ⟨hnone, rfl⟩ := openFeature_eq_ok hopen
  obtain ⟨hnames, hlines⟩ := h.no_feature hnone
  constructor
  case scenarios => exact .other h.scenarios rfl
  case feature =>
    simp [close, Paragraph.featureName?, Paragraph.description?, hnames, hlines, List.filterMap_cons]
  case no_feature => simp [close]
  case headers => simpa [Paragraph.header?, List.filterMap_cons] using h.headers
  case lines => simp [Paragraph.description?, hlines, List.filterMap_cons]
  case opening => simp
  case last => simp
  case follows => exact h.follows

/-- **A named header is taken up**, in front of everything or under a feature. -/
theorem After.addHeader {ps : List Paragraph} {r : Reading} (h : After language ps r) (line : Text)
    (header : Text × Text) (hregion : ∀ last, r.region ≠ .scenario last) :
    After language (ps ++ [Paragraph.header line header]) (r.addHeader header) := by
  have hheaders : (r.addHeader header).headers =
      Entries.ofPairs ((ps ++ [Paragraph.header line header]).filterMap Paragraph.header?) := by
    have hlast : [Paragraph.header line header].filterMap Paragraph.header? = [header] := rfl
    rw [List.filterMap_append, hlast, Entries.ofPairs_concat, ← h.headers]
    rfl
  have hscenarios := r.scenarios_close_addHeader header
  -- only a feature that is being read can be there, and it has the headers that have been read
  have hfeature : (r.addHeader header).close.feature =
      r.close.feature.map ({ · with headers := (r.addHeader header).headers }) := by
    cases hpart : r.part with
    | opening => simp [close, Reading.addHeader, hpart, h.opening hpart]
    | description name lines => simp [close, Reading.addHeader, hpart]
    | scenario current last => exact absurd (by simp [region, hpart]) (hregion last)
  constructor
  case scenarios => exact hscenarios ▸ .other h.scenarios rfl
  case feature =>
    rw [hfeature]
    intro feature hmem
    obtain ⟨before, hbefore, rfl⟩ := Option.map_eq_some_iff.mp hmem
    obtain ⟨hnames, hlines, -⟩ := h.feature before hbefore
    simpa [Paragraph.featureName?, Paragraph.description?, List.filterMap_cons] using ⟨hnames, hlines⟩
  case no_feature =>
    rw [hfeature, Option.map_eq_none_iff]
    simpa [Paragraph.featureName?, Paragraph.description?] using h.no_feature
  case headers => exact hheaders
  case lines =>
    have hpart : (r.addHeader header).part = r.part := rfl
    rw [hpart]
    simpa [Paragraph.description?, List.filterMap_cons] using h.lines
  case opening => exact h.opening
  case last => exact h.last
  case follows => exact hscenarios ▸ h.follows

/-- **A line is added to the description.** -/
theorem After.addDescription {ps : List Paragraph} {r : Reading} (h : After language ps r)
    {name : Text} {lines : List Text} (hpart : r.part = .description name lines) (line : Text) :
    After language (ps ++ [.description line]) { r with part := .description name (lines ++ [line]) } := by
  have hlines : (ps ++ [Paragraph.description line]).filterMap Paragraph.description? = lines ++ [line] := by
    rw [List.filterMap_append, h.lines name lines hpart]
    rfl
  have hfeature : r.close.feature = some ⟨name, Text.join "\n" lines, r.headers⟩ := by
    simp [close, hpart]
  have hscenarios : r.close.scenarios = r.scenarios := by simp [close, hpart]
  constructor
  case scenarios => exact .other (hscenarios ▸ h.scenarios) rfl
  case feature =>
    obtain ⟨hnames, -⟩ := h.feature _ hfeature
    rw [hlines]
    simpa [close, Paragraph.featureName?, List.filterMap_cons] using hnames
  case no_feature => simp [close]
  case headers => simpa [Paragraph.header?, List.filterMap_cons] using h.headers
  case lines =>
    rw [hlines]
    simp
  case opening => simp
  case last => simp
  case follows => exact hscenarios ▸ h.follows

/-- Steps that each follow the step before may be **followed by one more**. -/
theorem follows_concat {scenario : Scenario} {step : Step} (h : scenario.Follows language)
    (hstep : step.Follows language (scenario.steps.getLast?.map Step.kind)) :
    ({ scenario with steps := scenario.steps ++ [step] } : Scenario).Follows language := by
  intro before other after hsteps
  induction after using List.reverseRecOn with
  | nil =>
      have hsplit : scenario.steps ++ [step] = before ++ [other] := hsteps
      obtain ⟨rfl, hlast⟩ := List.append_inj' hsplit rfl
      exact List.singleton_inj.mp hlast ▸ hstep
  | append_singleton after last =>
      have hsplit : scenario.steps ++ [step] = (before ++ other :: after) ++ [last] := by
        rw [List.append_assoc, List.cons_append]
        exact hsteps
      obtain ⟨hbefore, -⟩ := List.append_inj' hsplit rfl
      exact h before other after hbefore

/-- **A step is added to the scenario.** -/
theorem After.addStep {ps : List Paragraph} {r : Reading} (h : After language ps r)
    {current : Scenario} {last : Option StepKind} (hpart : r.part = .scenario current last)
    {step : Step} (hstep : step.Follows language last) (block : List Text) :
    After language (ps ++ [.step step block])
      { r with part := .scenario { current with steps := current.steps ++ [step] } (some step.kind) } := by
  have hscenarios : r.close.scenarios = r.scenarios ++ [current] := by simp [close, hpart]
  have hfeature : r.close.feature = r.feature := by simp [close, hpart]
  have htold := h.scenarios
  have hfollows := h.follows
  rw [hscenarios] at htold hfollows
  constructor
  case scenarios => exact .step htold
  case feature =>
    have hbefore := h.feature
    rw [hfeature] at hbefore
    simpa [close, Paragraph.featureName?, Paragraph.description?, List.filterMap_cons] using hbefore
  case no_feature =>
    have hbefore := h.no_feature
    rw [hfeature] at hbefore
    simpa [close, Paragraph.featureName?, Paragraph.description?] using hbefore
  case headers => simpa [Paragraph.header?, List.filterMap_cons] using h.headers
  case lines => simp
  case opening => simp
  case last =>
    intro other last' hother
    obtain ⟨rfl, rfl⟩ := Part.scenario.inj hother
    simp
  case follows =>
    obtain ⟨hbefore, hcurrent⟩ := List.forall_mem_append.mp hfollows
    rw [h.last current last hpart] at hstep
    exact List.forall_mem_append.mpr ⟨hbefore,
      List.forall_mem_singleton.mpr (follows_concat (List.forall_mem_singleton.mp hcurrent) hstep)⟩

/-! ### One line is one paragraph -/

/-- A line is classified as the reader does it: by **the keyword that announces it** or by the step before. -/
theorem follows_of_classify {last : Option StepKind} {line keyword : Text} {kind : StepKind}
    (h : classify language last line = .ok (kind, keyword)) (block : Option Block) :
    Step.Follows language last ⟨kind, line, keyword, block⟩ := by
  unfold classify at h
  simp only at h
  split at h
  · next found hfound =>
    obtain rfl : found = (kind, keyword) := Except.ok.inj h
    obtain ⟨before, entry, after, hsplit, hentry, hbefore⟩ := List.findSome?_eq_some_iff.mp hfound
    obtain ⟨word, hword, hpair⟩ := Option.map_eq_some_iff.mp hentry
    obtain ⟨rfl, rfl⟩ := Prod.mk.inj hpair
    refine .announced hsplit (fun other hother => ?_) hword
    simpa using hbefore other hother
  · next hnone =>
    split at h
    · next word kind' hword =>
      obtain ⟨rfl, rfl⟩ := Prod.mk.inj (Except.ok.inj h)
      refine .continued ?_ hword rfl
      rintro ⟨entry, hmem, hsome⟩
      have hnot := List.findSome?_eq_none_iff.mp hnone entry hmem
      simp at hnot
      simp [hnot] at hsome
    · exact absurd h (by simp)
    · exact absurd h (by simp)

/-- A line that is no other paragraph is **a step in a scenario**, and takes its block with it. -/
theorem addStep_eq_ok {r r' : Reading} {line : Text} {following : List Text} {skip : Nat}
    (h : addStep language r line following = .ok (r', skip)) :
    ∃ current last step, r.part = .scenario current last ∧ step.text = line ∧
      step.Follows language last ∧
      r' = { r with
        part := .scenario { current with steps := current.steps ++ [step] } (some step.kind) } ∧
      skip = step.block.elim 0 Block.size ∧
      Block.SpelledBy step.block (following.take skip) (following.drop skip) := by
  unfold addStep at h
  cases hclassify : classify language r.lastKind line with
  | error fault => simp [hclassify, bind, Except.bind] at h
  | ok found =>
      obtain ⟨kind, keyword⟩ := found
      cases hpart : r.part with
      | opening => simp [hclassify, hpart, bind, Except.bind] at h
      | description name lines => simp [hclassify, hpart, bind, Except.bind] at h
      | scenario current last =>
          cases hblock : Block.read? following with
          | error fault => simp [hclassify, hpart, hblock, bind, Except.bind] at h
          | ok block =>
              obtain ⟨taken, rest, rfl, hspelled⟩ := Block.spelledBy_of_read? hblock
              obtain ⟨rfl, rfl⟩ : _ = r' ∧ block.elim 0 Block.size = skip := by
                simpa [hclassify, hpart, hblock, bind, Except.bind, pure, Except.pure] using h
              have hlast : r.lastKind = last := by simp [lastKind, hpart]
              refine ⟨current, last, ⟨kind, line, keyword, block⟩, rfl, rfl, ?_, rfl, rfl, ?_⟩
              · exact follows_of_classify (hlast ▸ hclassify) block
              · rw [← hspelled.length_lines, List.take_left, List.drop_left]
                exact hspelled

/-- **One line is one paragraph**, with as many of the following lines as are taken up with it. -/
theorem exists_paragraph {r r' : Reading} {line : Text} {following : List Text} {skip : Nat}
    (h : r.addLine language line following = .ok (r', skip)) :
    ∃ p : Paragraph, p.lines = line :: following.take skip ∧
      p.Reads language (following.drop skip) r.region r'.region ∧
      ∀ ps, After language ps r → After language (ps ++ [p]) r' := by
  unfold addLine at h
  split at h
  · next name lines hpart =>
    have hregion : r.region = .description := by simp [region, hpart]
    split at h
    · next _ _ title htitle =>
      obtain ⟨rfl, rfl⟩ := Prod.mk.inj (Except.ok.inj h)
      exact ⟨.scenario line title, rfl, .scenario (.inl hregion) htitle,
        fun ps hps => hps.openScenario line title⟩
    · next header htitle hheader =>
      obtain ⟨rfl, rfl⟩ := Prod.mk.inj (Except.ok.inj h)
      exact ⟨.header line header, rfl, .header (.inl hregion) htitle hheader,
        fun ps hps => hps.addHeader line header (by simp [hregion])⟩
    · next htitle hheader =>
      obtain ⟨rfl, rfl⟩ := Prod.mk.inj (Except.ok.inj h)
      rw [hregion]
      exact ⟨.description line, rfl, .description htitle hheader,
        fun ps hps => hps.addDescription hpart line⟩
  · next part hpart =>
    have hregion : r.region ≠ .description := by
      unfold region
      cases hr : r.part with
      | description name lines => exact absurd hr (hpart name lines)
      | _ => simp
    split at h
    · next _ _ title htitle =>
      cases hopen : r.openFeature title with
      | error fault => simp [hopen, Except.map] at h
      | ok r₁ =>
          obtain ⟨rfl, rfl⟩ : r₁ = r' ∧ 0 = skip := by simpa [hopen, Except.map] using h
          have hnext : r₁.region = .description := by rw [(openFeature_eq_ok hopen).2]; rfl
          exact ⟨.feature line title, rfl, hnext ▸ .feature hregion htitle,
            fun ps hps => hps.openFeature line hopen⟩
    · next title hfeature htitle =>
      obtain ⟨rfl, rfl⟩ := Prod.mk.inj (Except.ok.inj h)
      exact ⟨.scenario line title, rfl, .scenario (.inr hfeature) htitle,
        fun ps hps => hps.openScenario line title⟩
    · next hfeature htitle =>
      split at h
      · next header hopening hheader =>
        obtain ⟨rfl, rfl⟩ := Prod.mk.inj (Except.ok.inj h)
        have hr : r.region = .opening := by simp [region, hopening]
        exact ⟨.header line header, rfl, .header (.inr ⟨hr, hfeature⟩) htitle hheader,
          fun ps hps => hps.addHeader line header (by simp [hr])⟩
      · obtain ⟨current, last, step, hscenario, rfl, hfollows, rfl, hskip, hspelled⟩ := addStep_eq_ok h
        have hr : r.region = .scenario last := by simp [region, hscenario]
        refine ⟨.step step (following.take skip), rfl, ?_, fun ps hps =>
          hps.addStep hscenario hfollows _⟩
        rw [hr]
        exact .step hfeature htitle hfollows hspelled (hspelled.length_lines)

/-! ### The run of the reader -/

/-- Lines that belong to a block are **passed over**. -/
theorem addLines_skip (r : Reading) (skip : Nat) (lines : List Text) :
    r.addLines language skip lines = r.addLines language 0 (lines.drop skip) := by
  induction skip generalizing lines with
  | zero => rfl
  | succ skip ih =>
      cases lines with
      | nil => rfl
      | cons line lines => exact ih lines

/-- **All lines are cut into paragraphs** that tell what the reader has read. -/
theorem exists_cut {r r' : Reading} {lines : List Text} {before : List Paragraph}
    (hbefore : After language before r) (h : r.addLines language 0 lines = .ok r') :
    ∃ ps, Cut language r.region lines ps ∧ After language (before ++ ps) r' := by
  -- a block may take any number of lines along, so the induction is on how many are left
  induction hlength : lines.length using Nat.strongRecOn generalizing r lines before with
  | ind n ih =>
      cases lines with
      | nil =>
          obtain rfl : r = r' := Except.ok.inj h
          exact ⟨[], .nil, by rwa [List.append_nil]⟩
      | cons line following =>
          rw [addLines] at h
          cases hline : r.addLine language line following with
          | error fault => simp [hline] at h
          | ok found =>
              obtain ⟨r₁, skip⟩ := found
              simp only [hline] at h
              rw [addLines_skip] at h
              obtain ⟨p, hlines, hreads, hafter⟩ := exists_paragraph hline
              have hless : (following.drop skip).length < n := by
                rw [← hlength, List.length_drop, List.length_cons]
                omega
              obtain ⟨ps, hcut, hps⟩ := ih _ hless (hafter before hbefore) h rfl
              refine ⟨p :: ps, ?_, by simpa using hps⟩
              have hwhole : p.lines ++ following.drop skip = line :: following := by
                rw [hlines, List.cons_append, List.take_append_drop]
              exact hwhole ▸ .cons hreads hcut

/-- The document that has been read is **the one that the paragraphs tell**. -/
theorem After.toldBy {ps : List Paragraph} {r : Reading} (h : After language ps r) (code : Text) :
    (r.document code).ToldBy ps where
  scenarios := h.scenarios
  feature := fun feature hmem => by
    obtain ⟨hname, hdescription, hheaders⟩ := h.feature feature hmem
    rw [h.headers] at hheaders
    exact ⟨hname, hdescription, hheaders ▸ Entries.nodup_keys_ofPairs _,
      fun name => hheaders ▸ Entries.lookup_ofPairs _ name⟩
  no_feature := h.no_feature

end Reading

/-! ### Documents -/

/-- What is read **as an option** is read. -/
theorem eq_ok_of_toOption {ε α : Type} {result : Except ε α} {a : α} (h : result.toOption = some a) :
    result = .ok a := by
  cases result with
  | error fault => exact absurd h (by simp [Except.toOption])
  | ok read => exact congrArg Except.ok (Option.some.inj h)

/-- A document is **what the reader makes of its lines**. -/
theorem Document.exists_reading {language : Language} {lines : List Text} {document : Document}
    (h : Document.ofLines language lines = .ok document) :
    ∃ r, Reading.start.addLines language 0 lines = .ok r ∧ r.document language.code = document := by
  rw [Document.ofLines] at h
  cases hread : Reading.start.addLines language 0 lines with
  | error fault => simp [hread, Except.map] at h
  | ok r => exact ⟨r, rfl, by simpa [hread, Except.map] using h⟩

/-- A document is read from **the significant lines** of its text, in the language of the text. -/
theorem Document.exists_ofLines {table : LanguageTable} {text : Text} {document : Document}
    (h : Document.ofText table text = .ok document) :
    ∃ language, table.language (languageCode text table.default) = .ok language ∧
      Document.ofLines language (significantLines text) = .ok document := by
  unfold Document.ofText at h
  split at h
  · exact absurd h (by simp)
  · next language hlanguage =>
    split at h
    · exact absurd h (by simp)
    · next read hread => exact ⟨language, hlanguage, Except.ok.inj h ▸ hread⟩

/-- **No line of a specification is lost, used twice or put in another place.** The significant lines of a
text that is read are cut into paragraphs from top to bottom, and these tell the document. Every step is a
context, an action or an outcome, by its own keyword or by the step before it in its scenario. -/
theorem Document.ofText_paragraphs {table : LanguageTable} {text : Text} {document : Document}
    (h : Document.ofText table text = .ok document) :
    ∃ language ps, table.language (languageCode text table.default) = .ok language ∧
      document.language = language.code ∧
      ps.flatMap Paragraph.lines = significantLines text ∧
      Cut language .opening (significantLines text) ps ∧
      document.ToldBy ps ∧
      ∀ scenario ∈ document.scenarios,
        scenario.Follows language ∧ ∀ step ∈ scenario.steps, step.kind ∈ StepKind.all := by
  unfold Document.ofText at h
  split at h
  · exact absurd h (by simp)
  · next language hlanguage =>
    split at h
    · exact absurd h (by simp)
    · next read hread =>
      obtain rfl : read = document := Except.ok.inj h
      unfold Document.ofLines at hread
      cases hlines : Reading.start.addLines language 0 (significantLines text) with
      | error fault => simp [hlines, Except.map] at hread
      | ok r =>
          obtain rfl : r.document language.code = read := by simpa [hlines, Except.map] using hread
          obtain ⟨ps, hcut, hafter⟩ := Reading.exists_cut Reading.After.start hlines
          exact ⟨language, ps, hlanguage, rfl, hcut.flatMap_lines, hcut, hafter.toldBy _,
            fun scenario hmem => ⟨hafter.follows scenario hmem,
              (hafter.follows scenario hmem).kind_mem_all⟩⟩

/-- A header that is given **twice**, a form with a blank line in front of it, and a scenario without
steps. -/
def minutesText : Text :=
  Text.join "\n" ["# language: en", "Feature 7: Minutes", "@Room: 4", "Who said what", "", "@room: 5",
    "Scenario: One", "Given a talk", "  When notes", "", ": by : Ann", ": on: Monday", "Then it ends",
    "Scenario: Two"]

/-- What the text **is read as**. -/
def minutes : Document :=
  ⟨"en", some ⟨"Minutes", "Who said what", [("room", "5")]⟩,
    [⟨"One", [⟨.context, "Given a talk", "Given", none⟩,
      ⟨.action, "When notes", "When", some (.form ⟨[("by", "Ann"), ("on", "Monday")]⟩)⟩,
      ⟨.outcome, "Then it ends", "Then", none⟩]⟩, ⟨"Two", []⟩]⟩

/-- The minutes are read, and so their lines are **paragraphs that tell them**. -/
theorem Document.ofText_paragraphs_minutes :
    Document.ofText builtInLanguages minutesText = .ok minutes ∧
      ∃ language ps,
        builtInLanguages.language (languageCode minutesText builtInLanguages.default) = .ok language ∧
        minutes.language = language.code ∧
        ps.flatMap Paragraph.lines = significantLines minutesText ∧
        Cut language .opening (significantLines minutesText) ps ∧ minutes.ToldBy ps ∧
        ∀ scenario ∈ minutes.scenarios,
          scenario.Follows language ∧ ∀ step ∈ scenario.steps, step.kind ∈ StepKind.all := by
  have hsome : (Document.ofText builtInLanguages minutesText).toOption = some minutes := by
    decide +kernel
  have hread : Document.ofText builtInLanguages minutesText = .ok minutes := by
    cases hread : Document.ofText builtInLanguages minutesText with
    | error failure => simp [hread, Except.toOption] at hsome
    | ok read => simpa [hread, Except.toOption] using hsome
  exact ⟨hread, Document.ofText_paragraphs hread⟩

end PlainSpec
