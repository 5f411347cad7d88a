import PlainSpec.Proofs.LineKinds
import PlainSpec.Proofs.Paragraphs

/-!
# Behind the first header of a scenario

Once a scenario is open, every line should be the header of a scenario, a step, or a line of its block, and
anything else a fault. The feature would then be told by the lines in front alone, and no step would be lost.

The reader looks for a feature in every part of a document but its description, and so also in a scenario. If
no feature is open yet, a late header opens one: the reader then takes up the description of that feature, and
what it finds there up to the next header of a scenario is no step, whatever it looks like. This module shows
that a late feature is the only thing that disturbs the scenarios, and says what it does to them.

A cut into paragraphs is gone through twice. In front of the first header of a scenario no paragraph is about
a scenario (`Cut.front`), and from there on all are, up to a late feature (`Cut.about_or_late`). A document has
one feature only, so that behind a late one there is no other.

## Main results

* `ScenariosTold.filter`, `Feature.ToldBy.filter`: which paragraphs tell the scenarios and the feature.
* `Document.ofText_scenes`: the scenarios of a text are undisturbed unless a feature is opened among them.
* `Document.ofText_late`: a late feature swallows a step.
-/

namespace PlainSpec

/-! ### The lines of scenarios -/

namespace Language

/-- Whether a line has the **syntax of a step**. -/
def IsStepLine (language : Language) (line : Text) : Prop :=
  language.Announces line ∨ (stepKeyword? (language.spellings .also) line).isSome = true

/-- Whether a line **can stand in a scenario**: as its header, a step, or a line of a block. -/
def IsSceneLine (language : Language) (line : Text) : Prop :=
  (title? (language.spellings .scenario) line).isSome = true ∨ language.IsStepLine line ∨
    isFormLine line = true ∨ isGridLine line = true

/-- The lines **in front of** the first header of a scenario. -/
def frontLines (language : Language) (lines : List Text) : List Text :=
  lines.takeWhile fun line => (title? (language.spellings .scenario) line).isNone

/-- The lines **from the first header** of a scenario on. -/
def sceneLines (language : Language) (lines : List Text) : List Text :=
  lines.dropWhile fun line => (title? (language.spellings .scenario) line).isNone

variable {language : Language} {line : Text}

/-- A line with the syntax of a step **begins with a word** of its own. -/
theorem Apart.begins_of_isStepLine (h : language.Apart) (hline : language.IsStepLine line) :
    ∃ keyword, keyword ≠ .feature ∧ keyword ≠ .scenario ∧ language.Begins keyword line := by
  rcases hline with ⟨entry, hentry, hsome⟩ | hsome
  · have hkeywords : ∀ entry ∈ Reading.stepKeywords, entry.2 ≠ .feature ∧ entry.2 ≠ .scenario := by decide
    obtain ⟨hfeature, hscenario⟩ := hkeywords entry hentry
    exact ⟨entry.2, hfeature, hscenario, h.begins_of_stepKeyword? hsome⟩
  · exact ⟨.also, by decide, by decide, h.begins_of_stepKeyword? hsome⟩

/-- The header of a scenario opens **no feature**, and is no step. -/
theorem Apart.scenario_line (h : language.Apart)
    (hline : (title? (language.spellings .scenario) line).isSome = true) :
    title? (language.spellings .feature) line = none ∧ ¬language.IsStepLine line := by
  have hbegins := h.begins_of_title? hline
  refine ⟨Option.not_isSome_iff_eq_none.mp fun hsome => ?_, fun hstep => ?_⟩
  · exact absurd (h.unique rfl hbegins (h.begins_of_title? hsome)) (by decide)
  · obtain ⟨keyword, -, hne, hkeyword⟩ := h.begins_of_isStepLine hstep
    exact hne (h.unique rfl hbegins hkeyword)

/-- The line of a block opens **no feature**, and is no step. -/
theorem Apart.block_line (h : language.Apart) (hline : isFormLine line = true ∨ isGridLine line = true) :
    title? (language.spellings .feature) line = none ∧ ¬language.IsStepLine line := by
  have hbegins : ∀ keyword, ¬language.Begins keyword line := by
    intro keyword hkeyword
    obtain ⟨hcolon, hpipe⟩ := h.head?_ne hkeyword
    exact hline.elim (fun hform => hcolon (head?_of_isFormLine hform))
      fun hgrid => hpipe (head?_of_isGridLine hgrid)
  refine ⟨Option.not_isSome_iff_eq_none.mp fun hsome => ?_, fun hstep => ?_⟩
  · exact hbegins _ (h.begins_of_title? hsome)
  · obtain ⟨keyword, -, -, hkeyword⟩ := h.begins_of_isStepLine hstep
    exact hbegins keyword hkeyword

end Language

/-- A block is spelled by **form lines or grid lines**. -/
theorem Block.SpelledBy.line_kind {block : Option Block} {lines rest : List Text}
    (h : SpelledBy block lines rest) : ∀ line ∈ lines, isFormLine line = true ∨ isGridLine line = true := by
  intro line hline
  cases h with
  | none => exact absurd hline (by simp)
  | form _ hlines _ =>
      obtain ⟨field, -, hfield⟩ := List.mem_map.mp (hlines ▸ List.mem_map_of_mem hline)
      exact .inl (by rw [isFormLine, ← hfield, Option.isSome_some])
  | grid _ hlines _ _ =>
      obtain ⟨row, -, hrow⟩ := List.mem_map.mp (hlines ▸ List.mem_map_of_mem hline)
      exact .inr (isGridLine_of_gridCells? hrow.symm)

/-- The text of a step has **its syntax**. -/
theorem Step.Follows.isStepLine {language : Language} {last : Option StepKind} {step : Step}
    (h : step.Follows language last) : language.IsStepLine step.text := by
  cases h with
  | @announced before after keyword hsplit _ hword =>
      exact .inl ⟨(step.kind, keyword), by simp [hsplit], by rw [hword, Option.isSome_some]⟩
  | continued _ hword _ => exact .inr (by rw [hword, Option.isSome_some])

namespace Paragraph

variable {language : Language} {rest : List Text} {region next : Region} {p : Paragraph} {line : Text}

/-- A line of a paragraph about a scenario can stand there, opens **no feature**, and is the text of a step if it
looks like one. -/
theorem Reads.scene_line (hapart : language.Apart) (h : p.Reads language rest region next)
    (hp : p.isAboutScenario = true) (hline : line ∈ p.lines) :
    language.IsSceneLine line ∧ title? (language.spellings .feature) line = none ∧
      (language.IsStepLine line → ∃ step block, p = .step step block ∧ step.text = line) := by
  cases h with
  | feature | header | description => exact absurd hp (by simp [isAboutScenario])
  | @scenario _ text name _ htitle =>
      obtain rfl : line = text := by simpa [lines] using hline
      have hsome : (title? (language.spellings .scenario) line).isSome = true := by rw [htitle]; rfl
      obtain ⟨hfeature, hstep⟩ := hapart.scenario_line hsome
      exact ⟨.inl hsome, hfeature, fun hline => absurd hline hstep⟩
  | @step last step block hfeature _ hfollows hspelled _ =>
      rcases List.mem_cons.mp hline with rfl | hblock
      · exact ⟨.inr (.inl hfollows.isStepLine), hfeature, fun _ => ⟨step, block, rfl, rfl⟩⟩
      · have hkind := hspelled.line_kind line hblock
        obtain ⟨hfeature, hstep⟩ := hapart.block_line hkind
        exact ⟨.inr (.inr hkind), hfeature, fun hline => absurd hline hstep⟩

end Paragraph

/-! ### What tells the scenarios, and what the feature -/

/-- The scenarios are told by **the paragraphs about them**. -/
theorem ScenariosTold.filter {ps : List Paragraph} {scenarios : List Scenario}
    (h : ScenariosTold ps scenarios) : ScenariosTold (ps.filter Paragraph.isAboutScenario) scenarios := by
  induction h with
  | nil => exact .nil
  | opened _ ih =>
      rw [List.filter_append]
      exact .opened ih
  | step _ ih =>
      rw [List.filter_append]
      exact .step ih
  | other _ hp ih =>
      rw [List.filter_append, List.filter_cons_of_neg (by simp [hp]), List.filter_nil, List.append_nil]
      exact ih

/-- Every step that is told **belongs to a scenario**. -/
theorem ScenariosTold.exists_scenario {ps : List Paragraph} {scenarios : List Scenario}
    {step : Step} {block : List Text} (h : ScenariosTold ps scenarios)
    (hstep : Paragraph.step step block ∈ ps) : ∃ scenario ∈ scenarios, step ∈ scenario.steps := by
  induction h with
  | nil => exact absurd hstep (by simp)
  | opened _ ih =>
      obtain ⟨scenario, hscenario, hmem⟩ := ih (by simpa using hstep)
      exact ⟨scenario, List.mem_append_left _ hscenario, hmem⟩
  | other _ hp ih =>
      refine ih ((List.mem_append.mp hstep).resolve_right fun hlast => ?_)
      rw [← List.mem_singleton.mp hlast] at hp
      exact absurd hp (by simp [Paragraph.isAboutScenario])
  | @step ps scenarios latest last _ _ ih =>
      rcases List.mem_append.mp hstep with hbefore | hlast
      · obtain ⟨scenario, hscenario, hmem⟩ := ih hbefore
        rcases List.mem_append.mp hscenario with hscenario | hlatest
        · exact ⟨scenario, List.mem_append_left _ hscenario, hmem⟩
        · rw [List.mem_singleton.mp hlatest] at hmem
          exact ⟨_, List.mem_append_right _ List.mem_cons_self, List.mem_append_left _ hmem⟩
      · obtain ⟨rfl, -⟩ := Paragraph.step.inj (List.mem_singleton.mp hlast)
        exact ⟨_, List.mem_append_right _ List.mem_cons_self, List.mem_append_right _ List.mem_cons_self⟩

/-- A paragraph about a scenario gives the feature **nothing**. -/
theorem Paragraph.silent_of_about {p : Paragraph} (h : p.isAboutScenario = true) :
    p.featureName? = none ∧ p.header? = none ∧ p.description? = none := by
  cases p with
  | scenario | step => exact ⟨rfl, rfl, rfl⟩
  | feature | header | description => exact absurd h (by simp [isAboutScenario])

/-- What paragraphs about scenarios do not give is given by **the others**. -/
theorem filterMap_filter_about {α : Type} {f : Paragraph → Option α}
    (hf : ∀ p, p.isAboutScenario = true → f p = none) (ps : List Paragraph) :
    (ps.filter fun p => !p.isAboutScenario).filterMap f = ps.filterMap f := by
  induction ps with
  | nil => rfl
  | cons p ps ih =>
      cases hp : p.isAboutScenario with
      | false => rw [List.filter_cons_of_pos (by simp [hp]), List.filterMap_cons, List.filterMap_cons, ih]
      | true => rw [List.filter_cons_of_neg (by simp [hp]), ih, List.filterMap_cons_none (hf p hp)]

/-- The feature is told by the paragraphs that are **not about scenarios**. -/
theorem Feature.ToldBy.filter {ps : List Paragraph} {feature : Feature} (h : feature.ToldBy ps) :
    feature.ToldBy (ps.filter fun p => !p.isAboutScenario) := by
  have hname := filterMap_filter_about (fun _ hp => (Paragraph.silent_of_about hp).1) ps
  have hheader := filterMap_filter_about (fun _ hp => (Paragraph.silent_of_about hp).2.1) ps
  have hdescription := filterMap_filter_about (fun _ hp => (Paragraph.silent_of_about hp).2.2) ps
  exact ⟨hname.symm ▸ h.name, hdescription.symm ▸ h.description, h.different, hheader.symm ▸ h.headers⟩

/-! ### In front of the scenarios, and from there on -/

/-- Whether paragraphs begin with **the header of a scenario**, and go on from there; there may be none. -/
def Scenes (language : Language) (ps : List Paragraph) : Prop :=
  ps = [] ∨ ∃ line name rest behind, ps = .scenario line name :: behind ∧
    title? (language.spellings .scenario) line = some name ∧ Cut language (.scenario none) rest behind

/-- Every paragraph of a cut **is what it is read as**. -/
theorem Cut.reads_of_mem {language : Language} {region : Region} {lines : List Text} {ps : List Paragraph}
    {p : Paragraph} (h : Cut language region lines ps) (hp : p ∈ ps) :
    ∃ rest region next, p.Reads language rest region next := by
  induction h with
  | nil => exact absurd hp (by simp)
  | cons hreads _ ih =>
      rcases List.mem_cons.mp hp with rfl | hp
      · exact ⟨_, _, _, hreads⟩
      · exact ih hp

/-- Outside of a scenario no paragraph is about one **up to the first header of one**. -/
theorem Cut.front {language : Language} (hapart : language.Apart) {region : Region} {lines : List Text}
    {ps : List Paragraph} (h : Cut language region lines ps) (hregion : ∀ last, region ≠ .scenario last) :
    ∃ front scenes, ps = front ++ scenes ∧ (∀ p ∈ front, p.isAboutScenario = false) ∧
      (∀ line ∈ front.flatMap Paragraph.lines, title? (language.spellings .scenario) line = none) ∧
      Scenes language scenes := by
  induction h with
  | nil => exact ⟨[], [], rfl, by simp, by simp, .inl rfl⟩
  | @cons region next p rest ps hreads hcut ih =>
      -- a paragraph that is not about a scenario is one line, and leads to no scenario
      have hfront : ∀ line, p.lines = [line] → p.isAboutScenario = false →
          title? (language.spellings .scenario) line = none → (∀ last, next ≠ .scenario last) →
          ∃ front scenes, p :: ps = front ++ scenes ∧ (∀ p ∈ front, p.isAboutScenario = false) ∧
            (∀ line ∈ front.flatMap Paragraph.lines,
              title? (language.spellings .scenario) line = none) ∧ Scenes language scenes := by
        intro line hline hp htitle hnext
        obtain ⟨front, scenes, hps, habout, htitles, hscenes⟩ := ih hnext
        refine ⟨p :: front, scenes, by rw [hps, List.cons_append],
          List.forall_mem_cons.mpr ⟨hp, habout⟩, ?_, hscenes⟩
        rw [List.flatMap_cons, hline]
        exact List.forall_mem_cons.mpr ⟨htitle, htitles⟩
      cases hreads with
      | @feature _ line name _ hfeature =>
          refine hfront line rfl rfl (Option.not_isSome_iff_eq_none.mp fun hsome => ?_) (by simp)
          rw [(hapart.scenario_line hsome).1] at hfeature
          exact absurd hfeature (by simp)
      | header _ htitle _ => exact hfront _ rfl rfl htitle hregion
      | description htitle _ => exact hfront _ rfl rfl htitle hregion
      | @scenario _ line name _ htitle =>
          exact ⟨[], _, rfl, by simp, by simp, .inr ⟨line, name, rest, ps, rfl, htitle, hcut⟩⟩
      | step => exact absurd rfl (hregion _)

/-- In a scenario every paragraph is about one **up to a feature**. -/
theorem Cut.about_or_late {language : Language} {last : Option StepKind} {lines : List Text}
    {ps : List Paragraph} (h : Cut language (.scenario last) lines ps) :
    (∀ p ∈ ps, p.isAboutScenario = true) ∨
      ∃ told line name rest behind, ps = told ++ .feature line name :: behind ∧
        (∀ p ∈ told, p.isAboutScenario = true) ∧ Cut language .description rest behind := by
  generalize hregion : Region.scenario last = region at h
  induction h generalizing last with
  | nil => exact .inl (by simp)
  | @cons region next p rest ps hreads hcut ih =>
      -- a paragraph about a scenario goes in front of all that comes behind it
      have hcons : p.isAboutScenario = true → (∃ last, Region.scenario last = next) →
          (∀ q ∈ p :: ps, q.isAboutScenario = true) ∨
            ∃ told line name rest behind, p :: ps = told ++ .feature line name :: behind ∧
              (∀ q ∈ told, q.isAboutScenario = true) ∧ Cut language .description rest behind := by
        rintro hp ⟨last', hnext⟩
        rcases ih hnext with habout | ⟨told, line, name, rest', behind, hps, htold, hbehind⟩
        · exact .inl (List.forall_mem_cons.mpr ⟨hp, habout⟩)
        · exact .inr ⟨p :: told, line, name, rest', behind, by rw [hps, List.cons_append],
            List.forall_mem_cons.mpr ⟨hp, htold⟩, hbehind⟩
      subst hregion
      cases hreads with
      | @feature _ line name _ _ => exact .inr ⟨[], line, name, rest, ps, rfl, by simp, hcut⟩
      | header hplace _ _ =>
          rcases hplace with hplace | ⟨hplace, -⟩ <;> exact absurd hplace (by simp)
      | scenario => exact hcons rfl ⟨none, rfl⟩
      | @step _ step => exact hcons rfl ⟨some step.kind, rfl⟩

/-- From the header of a scenario on every paragraph is about a scenario **up to a feature**. -/
theorem Scenes.about_or_late {language : Language} {ps : List Paragraph} (h : Scenes language ps) :
    (∀ p ∈ ps, p.isAboutScenario = true) ∨
      ∃ told line name rest behind, ps = told ++ .feature line name :: behind ∧ told ≠ [] ∧
        (∀ p ∈ told, p.isAboutScenario = true) ∧ Cut language .description rest behind := by
  rcases h with rfl | ⟨header, title, lines, ps, rfl, -, hcut⟩
  · exact .inl (by simp)
  · rcases hcut.about_or_late with habout | ⟨told, line, name, rest, behind, rfl, htold, hbehind⟩
    · exact .inl (List.forall_mem_cons.mpr ⟨rfl, habout⟩)
    · exact .inr ⟨.scenario header title :: told, line, name, rest, behind, rfl, by simp,
        List.forall_mem_cons.mpr ⟨rfl, htold⟩, hbehind⟩

/-- The lines of the paragraphs in front and from there on are **those that the headers tell apart**. -/
theorem frontLines_sceneLines {language : Language} {front scenes : List Paragraph} {lines : List Text}
    (hlines : (front ++ scenes).flatMap Paragraph.lines = lines)
    (hfront : ∀ line ∈ front.flatMap Paragraph.lines, title? (language.spellings .scenario) line = none)
    (hscenes : Scenes language scenes) :
    front.flatMap Paragraph.lines = language.frontLines lines ∧
      scenes.flatMap Paragraph.lines = language.sceneLines lines := by
  have hnone : ∀ line ∈ front.flatMap Paragraph.lines,
      (title? (language.spellings .scenario) line).isNone = true := by
    intro line hline
    rw [hfront line hline, Option.isNone_none]
  rw [List.flatMap_append] at hlines
  rw [← hlines, Language.frontLines, Language.sceneLines, List.takeWhile_append_of_pos hnone,
    List.dropWhile_append_of_pos hnone]
  rcases hscenes with rfl | ⟨line, name, rest, behind, rfl, htitle, -⟩
  · simp
  · simp [Paragraph.lines, htitle]

/-! ### Documents -/

/-- The scenarios are **undisturbed**: from the first header of a scenario on every paragraph is about one,
the feature is told by what is in front, and every line with the syntax of a step is one. -/
structure Undisturbed (language : Language) (document : Document) (front scenes : List Paragraph) : Prop where
  about : ∀ p ∈ scenes, p.isAboutScenario = true
  feature : ∀ feature ∈ document.feature, feature.ToldBy front
  scenarios : ScenariosTold scenes document.scenarios
  steps : ∀ line ∈ scenes.flatMap Paragraph.lines, language.IsStepLine line →
    ∃ scenario ∈ document.scenarios, ∃ step ∈ scenario.steps, step.text = line

/-- A **late feature** stands behind the header of a scenario. What comes up to the next header is its
description or its headers, and tells no scenario. -/
def LateFeature (document : Document) (front scenes : List Paragraph) : Prop :=
  ∃ told line name swallowed others,
    scenes = told ++ .feature line name :: (swallowed ++ others) ∧ told ≠ [] ∧
      (∀ p ∈ told ++ others, p.isAboutScenario = true) ∧ (∀ p ∈ swallowed, p.isAboutScenario = false) ∧
      (∃ feature, document.feature = some feature ∧
        feature.ToldBy (front ++ .feature line name :: swallowed)) ∧
      ScenariosTold (told ++ others) document.scenarios

namespace Document.ToldBy

variable {language : Language} {document : Document} {front scenes : List Paragraph} {region : Region}
  {lines : List Text}

/-- A document has **one feature** at most. -/
theorem featureNames_le (h : document.ToldBy front) :
    (front.filterMap Paragraph.featureName?).length ≤ 1 := by
  cases hfeature : document.feature with
  | none => rw [(h.no_feature hfeature).1]; exact Nat.zero_le _
  | some feature => rw [(h.feature feature hfeature).name]; exact Nat.le_refl _

/-- Paragraphs that are all about scenarios leave these **undisturbed**. -/
theorem undisturbed (hapart : language.Apart) (h : document.ToldBy (front ++ scenes))
    (hcut : Cut language region lines (front ++ scenes))
    (hfront : ∀ p ∈ front, p.isAboutScenario = false)
    (hscenes : ∀ p ∈ scenes, p.isAboutScenario = true) : Undisturbed language document front scenes where
  about := hscenes
  feature := by
    intro feature hfeature
    have htold := (h.feature feature hfeature).filter
    rwa [List.filter_append, List.filter_eq_self.mpr (by simpa using hfront),
      List.filter_eq_nil_iff.mpr (by simpa using hscenes), List.append_nil] at htold
  scenarios := by
    have htold := h.scenarios.filter
    rwa [List.filter_append, List.filter_eq_nil_iff.mpr (by simpa using hfront),
      List.filter_eq_self.mpr hscenes, List.nil_append] at htold
  steps := by
    intro line hline hstep
    obtain ⟨p, hp, hline⟩ := List.mem_flatMap.mp hline
    obtain ⟨_, _, _, hreads⟩ := hcut.reads_of_mem (List.mem_append_right front hp)
    obtain ⟨step, block, rfl, rfl⟩ := (hreads.scene_line hapart (hscenes p hp) hline).2.2 hstep
    obtain ⟨scenario, hscenario, hmem⟩ := h.scenarios.exists_scenario (List.mem_append_right front hp)
    exact ⟨scenario, hscenario, step, hmem, rfl⟩

/-- Scenarios are undisturbed **or there is a late feature**. -/
theorem undisturbed_or_late (hapart : language.Apart) (h : document.ToldBy (front ++ scenes))
    (hcut : Cut language region lines (front ++ scenes))
    (hfront : ∀ p ∈ front, p.isAboutScenario = false) (hscenes : Scenes language scenes) :
    Undisturbed language document front scenes ∨ LateFeature document front scenes := by
  rcases hscenes.about_or_late with habout | ⟨told, line, name, rest, behind, rfl, hne, htold, hbehind⟩
  · exact .inl (h.undisturbed hapart hcut hfront habout)
  · obtain ⟨swallowed, others, rfl, hswallowed, -, hothers⟩ := hbehind.front hapart (by simp)
    have hle := h.featureNames_le
    -- there is one feature at most, and so no other one behind the late one
    have habout : ∀ p ∈ others, p.isAboutScenario = true := by
      refine hothers.about_or_late.resolve_right ?_
      rintro ⟨_, _, _, _, _, rfl, -⟩
      simp only [List.filterMap_append, List.filterMap_cons, Paragraph.featureName?, List.length_append,
        List.length_cons] at hle
      omega
    have hsome : document.feature ≠ none := by
      intro hnone
      have hnames := (h.no_feature hnone).1
      simp [Paragraph.featureName?] at hnames
    obtain ⟨feature, hfeature⟩ := Option.ne_none_iff_exists'.mp hsome
    refine .inr ⟨told, line, name, swallowed, others, rfl, hne,
      List.forall_mem_append.mpr ⟨htold, habout⟩, hswallowed, ⟨feature, hfeature, ?_⟩, ?_⟩
    · have hfilter := (h.feature feature hfeature).filter
      simp only [List.filter_append] at hfilter
      rwa [List.filter_eq_self.mpr (by simpa using hfront),
        List.filter_eq_nil_iff.mpr (by simpa using htold), List.nil_append,
        List.filter_cons_of_pos (by rfl), List.filter_append,
        List.filter_eq_self.mpr (by simpa using hswallowed),
        List.filter_eq_nil_iff.mpr (by simpa using habout), List.append_nil] at hfilter
    · have hfilter := h.scenarios.filter
      simp only [List.filter_append] at hfilter
      rwa [List.filter_eq_nil_iff.mpr (by simpa using hfront), List.filter_eq_self.mpr htold,
        List.nil_append, List.filter_cons_of_neg (by simp [Paragraph.isAboutScenario]),
        List.filter_append, List.filter_eq_nil_iff.mpr (by simpa using hswallowed), List.nil_append,
        List.filter_eq_self.mpr habout] at hfilter

end Document.ToldBy

namespace Document

variable {language : Language} {lines : List Text}

/-- Lines that are read are **cut into paragraphs** that tell the document. -/
theorem exists_cut {document : Document} (h : Document.ofLines language lines = .ok document) :
    ∃ ps, Cut language .opening lines ps ∧ document.ToldBy ps := by
  obtain ⟨r, hread, rfl⟩ := exists_reading h
  obtain ⟨ps, hcut, hafter⟩ := Reading.exists_cut Reading.After.start hread
  exact ⟨ps, hcut, hafter.toldBy _⟩

/-- **A late feature is all that disturbs scenarios.** Lines that are read are cut into those in front of the
first header of a scenario and the others. These are undisturbed exactly if none of them opens a feature, and
otherwise there is a late one. -/
theorem ofLines_scenes {document : Document} (hapart : language.Apart)
    (h : Document.ofLines language lines = .ok document) :
    ∃ front scenes, Cut language .opening lines (front ++ scenes) ∧ document.ToldBy (front ++ scenes) ∧
      front.flatMap Paragraph.lines = language.frontLines lines ∧
      scenes.flatMap Paragraph.lines = language.sceneLines lines ∧
      (Undisturbed language document front scenes ↔
        ∀ line ∈ language.sceneLines lines, title? (language.spellings .feature) line = none) ∧
      (Undisturbed language document front scenes ∨ LateFeature document front scenes) := by
  obtain ⟨ps, hcut, htold⟩ := exists_cut h
  obtain ⟨front, scenes, rfl, hfront, htitles, hscenes⟩ := hcut.front hapart (by simp)
  obtain ⟨hfrontLines, hsceneLines⟩ := frontLines_sceneLines hcut.flatMap_lines htitles hscenes
  have hcases := htold.undisturbed_or_late hapart hcut hfront hscenes
  refine ⟨front, scenes, hcut, htold, hfrontLines, hsceneLines, ⟨fun hun => ?_, fun hnone => ?_⟩, hcases⟩
  · rw [← hsceneLines]
    intro line hline
    obtain ⟨p, hp, hline⟩ := List.mem_flatMap.mp hline
    obtain ⟨_, _, _, hreads⟩ := hcut.reads_of_mem (List.mem_append_right front hp)
    exact (hreads.scene_line hapart (hun.about p hp) hline).2.1
  · refine hcases.resolve_right ?_
    rintro ⟨told, line, name, swallowed, others, rfl, -⟩
    have hmem : Paragraph.feature line name ∈ told ++ .feature line name :: (swallowed ++ others) :=
      List.mem_append_right _ List.mem_cons_self
    obtain ⟨_, _, _, hreads⟩ := hcut.reads_of_mem (List.mem_append_right front hmem)
    have htitle := hnone line (hsceneLines ▸ List.mem_flatMap.mpr ⟨_, hmem, List.mem_cons_self⟩)
    cases hreads with
    | feature _ hname => rw [htitle] at hname; exact absurd hname (by simp)

/-- **Once a scenario is open nothing is swallowed, unless a feature is opened late.** Every text is read in a
built-in language, as a document or with a fault. From the first header of a scenario on its lines are
undisturbed exactly if none of them opens a feature: then they are headers of scenarios, steps and the lines of
their blocks, the feature is told by what is in front, and a line that can be none of these is a fault. -/
theorem ofText_scenes (text : Text) :
    ∃ language, builtInLanguages.language (languageCode text builtInLanguages.default) = .ok language ∧
      ((∃ fault, Document.ofText builtInLanguages text = .error (.specification fault none)) ∨
        ∃ document front scenes, Document.ofText builtInLanguages text = .ok document ∧
          Cut language .opening (significantLines text) (front ++ scenes) ∧
          document.ToldBy (front ++ scenes) ∧
          front.flatMap Paragraph.lines = language.frontLines (significantLines text) ∧
          scenes.flatMap Paragraph.lines = language.sceneLines (significantLines text) ∧
          (Undisturbed language document front scenes ↔
            ∀ line ∈ language.sceneLines (significantLines text),
              title? (language.spellings .feature) line = none) ∧
          (Undisturbed language document front scenes ∨ LateFeature document front scenes)) ∧
      ((∀ line ∈ language.sceneLines (significantLines text),
          title? (language.spellings .feature) line = none) →
        (∃ line ∈ language.sceneLines (significantLines text), ¬language.IsSceneLine line) →
        ∃ fault, Document.ofText builtInLanguages text = .error (.specification fault none)) := by
  obtain ⟨language, hlanguage, hbuiltIn⟩ :=
    Language.exists_isBuiltIn (languageCode text builtInLanguages.default)
  refine ⟨language, hlanguage, ?_⟩
  cases hread : Document.ofLines language (significantLines text) with
  | error fault =>
      have herror : Document.ofText builtInLanguages text = .error (.specification fault none) := by
        simp only [Document.ofText, hlanguage, hread]
      exact ⟨.inl ⟨fault, herror⟩, fun _ _ => ⟨fault, herror⟩⟩
  | ok document =>
      have hok : Document.ofText builtInLanguages text = .ok document := by
        simp only [Document.ofText, hlanguage, hread]
      obtain ⟨front, scenes, hcut, htold, hfront, hscenes, hiff, hcases⟩ :=
        ofLines_scenes hbuiltIn.apart hread
      refine ⟨.inr ⟨document, front, scenes, hok, hcut, htold, hfront, hscenes, hiff, hcases⟩, ?_⟩
      rintro hnone ⟨line, hline, hnot⟩
      obtain ⟨p, hp, hmem⟩ := List.mem_flatMap.mp (hscenes.symm ▸ hline)
      obtain ⟨_, _, _, hreads⟩ := hcut.reads_of_mem (List.mem_append_right front hp)
      exact absurd (hreads.scene_line hbuiltIn.apart ((hiff.mpr hnone).about p hp) hmem).1 hnot

/-- A text with a **late feature**. -/
def lateText : Text := Text.join "\n" ["Scenario: One", "Given a", "Feature: F", "Given b"]

/-- What the text **is read as**. -/
def late : Document :=
  ⟨"en", some ⟨"F", "Given b", []⟩, [⟨"One", [⟨.context, "Given a", "Given", none⟩]⟩]⟩

/-- **A late feature swallows a step**: the line behind it has the syntax of a step, but is none. -/
theorem ofText_late :
    Document.ofText builtInLanguages lateText = .ok late ∧
      builtInLanguages.language (languageCode lateText builtInLanguages.default) = .ok english ∧
      ("Given b" : Text) ∈ english.sceneLines (significantLines lateText) ∧ english.IsStepLine "Given b" ∧
      ∀ scenario ∈ late.scenarios, ∀ step ∈ scenario.steps, step.text ≠ "Given b" := by
  have hsome : (Document.ofText builtInLanguages lateText).toOption = some late := by decide +kernel
  exact ⟨eq_ok_of_toOption hsome, rfl, by decide +kernel, .inl ⟨(.context, .given), by decide, by decide +kernel⟩, by decide⟩

end Document

end PlainSpec
