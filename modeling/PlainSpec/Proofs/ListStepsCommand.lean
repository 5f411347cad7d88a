import PlainSpec.CommandLine.Run
import PlainSpec.Proofs.Registrations

/-!
# The list-steps command

The command loads step definitions and prints them: the phrases by kind, and behind them the definitions that were
noted as invalid when they were registered. This module says what is printed in terms of the definitions that were
loaded.

## Main results

* `Command.runListSteps_of_loaded`: what is printed if everything is loaded.
-/

namespace PlainSpec

/-- Loading steps **adds** the definitions that it gives to a registry without any. -/
theorem Settings.adds_loadSteps (tree : FileTree) (paths : List Datum) :
    (Registry.empty Catalog.standard).Adds (Settings.loadSteps tree paths) := by
  refine Registry.adds_loadEach (fun r path => ?_) paths _
  split
  · next path _ => exact r.adds_enter (.path tree (Path.ofText path))
  · exact r.adds_error _

/-- **What listing steps prints** if all of them are loaded: under each kind the phrases of its definitions, and then a
line for each definition that carries a fault, both in the order in which the definitions were registered. -/
theorem Command.runListSteps_of_loaded {tree : FileTree} {settings : Settings} {steps : List Text}
    {ds : List Definition} {r : Registry}
    (h : Settings.loadSteps tree (stepsInForce steps settings) = (.ok ds, r)) :
    runListSteps tree settings steps = (Ending.success tree
      ((Registry.phrasesByKind ds).flatMap (fun entry => kindLines entry.1 entry.2) ++
        (ds.filter fun d => d.fault?.isSome).flatMap invalidLine)).after r.warnings := by
  have hgrown := (Settings.adds_loadSteps tree (stepsInForce steps settings)).grown h
  have hdefinitions : r.definitions = ds := hgrown.definitions_eq
  have hdescribed : r.describe = .ok (Registry.phrasesByKind ds) := by
    rw [← hdefinitions]
    refine Registry.describe_eq fun d hd => (hgrown.fresh d ?_).kind_mem
    rwa [← hdefinitions]
  have hinvalid : r.invalid = ds.filter fun d => d.fault?.isSome := by
    rw [((Registry.inStep_empty Catalog.standard).of_grown hgrown).invalid_eq, hdefinitions]
  simp only [runListSteps, h, hdescribed, hinvalid]

end PlainSpec
