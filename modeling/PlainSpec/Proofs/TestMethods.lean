import PlainSpec.Proofs.NamedPhrases
import PlainSpec.Proofs.QuotedTexts
import PlainSpec.Proofs.RunnerRecord
import PlainSpec.TestModule.Basic

/-!
# The tests of a module

A test module has a method for each scenario of its document. The methods have different names, but a method
knows its scenario by the scenario's name, and a runner takes the first scenario that has it. So of scenarios
with a common name only the first is verified, as many times as there are scenarios with this name.

This module follows a scenario from the document through the generated source to the runner: the source ends
with the methods, the literals in it are read back as the names of the scenarios, and running the methods
verifies the scenarios that are found under these names.

## Main results

* `TestModule.toText_eq`: the source of a module ends with its methods.
* `testsFor_nodup`: the methods have different names.
* `Document.exists_first`: under the name of a scenario, the first scenario with this name is found.
* `Generator.testModule_verifies`: what the tests of a module verify, and when these are all scenarios.
-/

namespace PlainSpec

/-! ### Methods -/

/-- The source of a **test method**, which verifies the scenario that a literal names. -/
def TestModule.methodText (method literal : Text) : Text :=
  ([[], "    def " ++ method ++ "(self):", "        self.runner.verify(" ++ literal ++ ")"] :
    List Text).flatMap fun line => line ++ ['\n']

/-- **The source of a module ends with its methods.** -/
theorem TestModule.toText_eq (m : TestModule) :
    ∃ front, m.toText = front ++ m.tests.flatMap fun test => methodText test.1 (Text.quoted test.2) := by
  refine ⟨(m.opening ++ m.header ++ (if m.hasSetup then setup else []) ++
    (if m.reportsUndefined then teardown else [])).flatMap fun line => line ++ ['\n'], ?_⟩
  rw [toText, List.flatMap_append, List.flatMap_assoc]
  rfl

/-- The tests **are for the scenarios**, in order. -/
theorem map_snd_testsFor (taken scenarios : List Text) :
    (testsFor taken scenarios).map Prod.snd = scenarios := by
  induction scenarios generalizing taken with
  | nil => rfl
  | cons scenario rest ih => rw [testsFor, List.map_cons, ih]

/-- The names of the methods are different **from each other and from those taken**. -/
theorem testsFor_nodup (taken scenarios : List Text) :
    ((testsFor taken scenarios).map Prod.fst).Nodup ∧
      ∀ name ∈ (testsFor taken scenarios).map Prod.fst, name ∉ taken := by
  induction scenarios generalizing taken with
  | nil => exact ⟨List.nodup_nil, by simp [testsFor]⟩
  | cons scenario rest ih =>
      obtain ⟨hnodup, hfree⟩ := ih (Text.freeName taken (testNameOf scenario) "_" :: taken)
      rw [testsFor, List.map_cons]
      refine ⟨List.nodup_cons.mpr ⟨fun hmem => hfree _ hmem List.mem_cons_self, hnodup⟩,
        List.forall_mem_cons.mpr ⟨Text.freeName_notMem taken _ _, fun name hname htaken => ?_⟩⟩
      exact hfree name hname (List.mem_cons_of_mem _ htaken)

/-- A test is named so as to be free **among the tests in front of it**, the latest of which stands first, and the names
taken. -/
theorem fst_eq_freeName_of_testsFor {taken scenarios : List Text} {before later : List (Text × Text)}
    {method scenario : Text} (h : testsFor taken scenarios = before ++ (method, scenario) :: later) :
    method = Text.freeName ((before.map Prod.fst).reverse ++ taken) (testNameOf scenario) "_" := by
  induction before generalizing taken scenarios with
  | nil =>
      cases scenarios with
      | nil => exact absurd h (by simp [testsFor])
      | cons first rest =>
          obtain ⟨rfl, rfl⟩ := Prod.mk.inj (List.cons.inj h).1
          rfl
  | cons test before ih =>
      cases scenarios with
      | nil => exact absurd h (by simp [testsFor])
      | cons first rest =>
          obtain ⟨rfl, hrest⟩ := List.cons.inj h
          rw [List.map_cons, List.reverse_cons, List.append_assoc]
          exact ih hrest

/-! ### Scenarios by name -/

/-- **Under the name of a scenario, the first scenario with this name is found.** -/
theorem Document.exists_first {document : Document} {i : Nat} {scenario : Scenario}
    (h : document.scenarios[i]? = some scenario) :
    ∃ j ≤ i, ∃ first, document.scenarios[j]? = some first ∧
      document.scenario? scenario.name = some first ∧ first.name = scenario.name ∧
      ∀ k < j, ∀ earlier, document.scenarios[k]? = some earlier → earlier.name ≠ scenario.name := by
  have hsome : (document.scenario? scenario.name).isSome = true :=
    List.find?_isSome.mpr ⟨scenario, List.mem_of_getElem? h, beq_self_eq_true _⟩
  obtain ⟨first, hfound⟩ := Option.isSome_iff_exists.mp hsome
  obtain ⟨hname, j, hj, rfl, hearlier⟩ := List.find?_eq_some_iff_getElem.mp hfound
  have hbefore : ∀ k < j, ∀ earlier, document.scenarios[k]? = some earlier →
      earlier.name ≠ scenario.name := by
    intro k hk earlier hget
    obtain ⟨hk', rfl⟩ := List.getElem?_eq_some_iff.mp hget
    simpa using hearlier k hk
  refine ⟨j, ?_, _, List.getElem?_eq_getElem hj, hfound, beq_iff_eq.mp hname, hbefore⟩
  exact Nat.le_of_not_lt fun hlt => hbefore i hlt scenario h rfl

/-- What is found under the name of a scenario stands **in its place** among the scenarios found. -/
theorem Document.getElem?_found {document : Document} {found : List Scenario}
    (h : document.scenarioNames.map document.scenario? = found.map some) {i : Nat} {scenario : Scenario}
    (hscenario : document.scenarios[i]? = some scenario) :
    found[i]? = document.scenario? scenario.name := by
  have hi := congrArg (·[i]?) h
  simp only [scenarioNames, List.map_map, List.getElem?_map, hscenario, Option.map_some,
    Function.comp_apply] at hi
  cases hfound : found[i]? with
  | none => simp [hfound] at hi
  | some other => simpa [hfound] using hi.symm

/-- The scenarios found are those of the document **exactly if scenarios of one name are the same**. -/
theorem Document.found_eq_iff {document : Document} {found : List Scenario}
    (h : document.scenarioNames.map document.scenario? = found.map some) :
    found = document.scenarios ↔ ∀ a ∈ document.scenarios, ∀ b ∈ document.scenarios,
      a.name = b.name → a = b := by
  constructor
  · rintro rfl a ha b hb hname
    obtain ⟨i, hi⟩ := List.mem_iff_getElem?.mp ha
    obtain ⟨j, hj⟩ := List.mem_iff_getElem?.mp hb
    have hsame := (getElem?_found h hi).trans
      ((congrArg document.scenario? hname).trans (getElem?_found h hj).symm)
    rw [hi, hj] at hsame
    exact Option.some.inj hsame
  · intro hsame
    refine List.ext_getElem? fun i => ?_
    cases hscenario : document.scenarios[i]? with
    | none =>
        have hlength := congrArg List.length h
        rw [List.length_map, List.length_map, scenarioNames, List.length_map] at hlength
        rw [List.getElem?_eq_none_iff] at hscenario ⊢
        exact hlength ▸ hscenario
    | some scenario =>
        obtain ⟨j, -, first, hfirst, hfound, hname, -⟩ := exists_first hscenario
        rw [getElem?_found h hscenario, hfound]
        exact congrArg some (hsame _ (List.mem_of_getElem? hfirst) _ (List.mem_of_getElem? hscenario) hname)

/-! ### Running the tests -/

namespace Runner

/-- Verifying a step leaves **the document** alone. -/
theorem verifyStep_document (r : Runner) (broken : Bool) (result : ScenarioResult) (step : Step) :
    (r.verifyStep broken result step).2.document = r.document := by
  unfold verifyStep
  rcases r.registry.bind step with ⟨failure | ⟨binding⟩ | closest, registry⟩
  · rfl
  · cases broken with
    | true => rfl
    | false =>
        simp only [invoke]
        rcases binding.invoke r.calls step.block with ⟨call, _ | raised⟩ <;> rfl
  · rfl

/-- Verifying steps leaves the document alone. -/
theorem verifySteps_document (steps : List Step) (broken : Bool) (result : ScenarioResult) (r : Runner) :
    (verifySteps broken result r steps).2.document = r.document := by
  induction steps generalizing broken result r with
  | nil => rfl
  | cons step rest ih =>
      have hstep := r.verifyStep_document broken result step
      rw [verifySteps]
      generalize r.verifyStep broken result step = outcome at hstep ⊢
      rcases outcome with ⟨failure | ⟨broken, result⟩, r₁⟩
      · exact hstep
      · exact (ih broken result r₁).trans hstep

/-- Verifying a scenario leaves the document alone, **whatever becomes of it**. -/
theorem verifyScenario_document (r : Runner) (feature : Text) (scenario : Scenario) :
    (r.verifyScenario feature scenario).2.document = r.document := by
  have hsteps := verifySteps_document scenario.steps false (.start feature scenario.name) r
  rw [verifyScenario]
  generalize verifySteps false (.start feature scenario.name) r scenario.steps = outcome at hsteps ⊢
  rcases outcome with ⟨failure | result, r₁⟩ <;> exact hsteps

/-- **Tests that verify scenarios by name** leave the runner as verifying the scenarios found does. -/
theorem foldl_verify {document : Document} (names : List Text) {found : List Scenario}
    (h : names.map document.scenario? = found.map some) {r : Runner} (hr : r.document = some document) :
    names.foldl (fun r name => r.act (.verify name)) r =
      found.foldl (fun r scenario => (r.verifyScenario document.featureName scenario).2) r := by
  induction names generalizing found r with
  | nil => rw [List.map_eq_nil_iff.mp h.symm, List.foldl_nil, List.foldl_nil]
  | cons name rest ih =>
      obtain ⟨scenario, others, rfl, hscenario, hrest⟩ := List.map_eq_cons_iff.mp h.symm
      have hact : r.act (.verify name) = (r.verifyScenario document.featureName scenario).2 := by
        rw [act, verify_snd, hr, Option.bind_some, ← hscenario, Option.elim_some, featureName, hr]
        rfl
      rw [List.foldl_cons, List.foldl_cons, hact]
      exact ih hrest.symm ((r.verifyScenario_document _ _).trans hr)

end Runner

/-! ### Modules -/

/-- **What the tests of a module verify**, given the scenarios that are found for them. -/
structure TestModule.Verifies (m : TestModule) (document : Document) (found : List Scenario) : Prop where
  /-- The source ends with one method for each scenario. The methods have different names, and the literals in
  them are read back as the **names of the scenarios**. -/
  methods : ∃ front names literals, m.toText = front ++ (List.zipWith methodText names literals).flatten ∧
    names.Nodup ∧ names.length = document.scenarios.length ∧
    literals.map Text.unquoted? = document.scenarioNames.map some
  /-- Under each name **a scenario is found**. -/
  lookup : document.scenarioNames.map document.scenario? = found.map some
  /-- It is the **first scenario with this name**. -/
  first : ∀ (i : Nat) (scenario : Scenario), document.scenarios[i]? = some scenario →
    ∃ j ≤ i, ∃ first : Scenario, document.scenarios[j]? = some first ∧ found[i]? = some first ∧
      first.name = scenario.name ∧
      ∀ k < j, ∀ earlier : Scenario, document.scenarios[k]? = some earlier → earlier.name ≠ scenario.name
  /-- The scenarios found are those of the document **exactly if scenarios of one name are the same**. -/
  complete : found = document.scenarios ↔
    ∀ a ∈ document.scenarios, ∀ b ∈ document.scenarios, a.name = b.name → a = b
  /-- Running the tests on a runner that holds the document verifies **the scenarios found**, in order. -/
  run : ∀ r : Runner, r.document = some document →
    document.scenarioNames.foldl (fun r name => r.act (.verify name)) r =
      found.foldl (fun r scenario => (r.verifyScenario document.featureName scenario).2) r

/-- The source of a module **ends with a method for each scenario**, and a literal in it is the scenario's
name. -/
theorem Generator.exists_methods (g : Generator) (baseClass : Option Text) (document : Document)
    (specification file : Path) :
    ∃ front names literals, (g.testModule baseClass document specification file).toText =
        front ++ (List.zipWith TestModule.methodText names literals).flatten ∧
      names.Nodup ∧ names.length = document.scenarios.length ∧
      literals.map Text.unquoted? = document.scenarioNames.map some := by
  obtain ⟨front, hfront⟩ := (g.testModule baseClass document specification file).toText_eq
  have htests : (g.testModule baseClass document specification file).tests =
      tests document.scenarioNames := rfl
  have hnames : (tests document.scenarioNames).map Prod.snd = document.scenarioNames :=
    map_snd_testsFor [] _
  refine ⟨front, (tests document.scenarioNames).map Prod.fst,
    (tests document.scenarioNames).map fun test => Text.quoted test.2, ?_, (testsFor_nodup [] _).1, ?_, ?_⟩
  · rw [hfront, htests, List.zipWith_map, List.zipWith_self]
    rfl
  · have hlength := congrArg List.length hnames
    rw [List.length_map] at hlength
    rw [List.length_map, hlength, Document.scenarioNames, List.length_map]
  · conv_rhs => rw [← hnames]
    rw [List.map_map, List.map_map]
    exact List.map_congr_left fun test _ => Text.unquoted?_quoted test.2

/-- Under the name of **every scenario** some scenario is found. -/
theorem Document.exists_found (document : Document) :
    ∃ found : List Scenario, document.scenarioNames.map document.scenario? = found.map some := by
  have hfound : ∀ name ∈ document.scenarioNames, ∃ scenario, document.scenario? name = some scenario := by
    intro name hname
    obtain ⟨scenario, hscenario, rfl⟩ := List.mem_map.mp hname
    obtain ⟨i, hi⟩ := List.mem_iff_getElem?.mp hscenario
    obtain ⟨-, -, first, -, hfirst, -⟩ := exists_first hi
    exact ⟨first, hfirst⟩
  have : Nonempty Scenario := ⟨⟨[], []⟩⟩
  choose! scenarioOf hscenarioOf using hfound
  refine ⟨document.scenarioNames.map scenarioOf, ?_⟩
  rw [List.map_map]
  exact List.map_congr_left hscenarioOf

/-- **The tests of a module verify the first scenario of each name.** The module for a document, generated
with any options, has a method of its own for each scenario, which asks a runner for the scenario by its name.
The runner finds the first scenario with this name, so running the tests verifies each scenario once if no two
different scenarios have a common name, and not otherwise. -/
theorem Generator.testModule_verifies (g : Generator) (baseClass : Option Text) (document : Document)
    (specification file : Path) :
    ∃ found, (g.testModule baseClass document specification file).Verifies document found := by
  obtain ⟨found, hfound⟩ := document.exists_found
  refine ⟨found, g.exists_methods baseClass document specification file, hfound,
    fun i scenario hscenario => ?_, Document.found_eq_iff hfound, fun r hr => Runner.foldl_verify _ hfound hr⟩
  obtain ⟨j, hj, first, hfirst, hname, hsame, hearlier⟩ := Document.exists_first hscenario
  exact ⟨j, hj, first, hfirst, (Document.getElem?_found hfound hscenario).trans hname, hsame, hearlier⟩

/-- A document with **two scenarios of one name**, about an account and about a card. -/
def payDocument : Document :=
  ⟨"en", none, [⟨"Pay", [⟨.context, "Given an account", "Given", none⟩]⟩,
    ⟨"Pay", [⟨.context, "Given a card", "Given", none⟩]⟩]⟩

/-- The scenario about the card is **verified by no test**: its test asks for the name of both, under which the
scenario about the account is found. -/
theorem unverified_payDocument :
    (Document.ofText builtInLanguages
        "Scenario: Pay\nGiven an account\nScenario: Pay\nGiven a card\n").toOption = some payDocument ∧
      (tests payDocument.scenarioNames).map Prod.snd = ["Pay", "Pay"] ∧
      payDocument.scenario? "Pay" = payDocument.scenarios[0]? ∧
      payDocument.scenarios[0]? ≠ payDocument.scenarios[1]? :=
  ⟨by decide +kernel, by decide +kernel, by decide, by decide⟩

end PlainSpec
