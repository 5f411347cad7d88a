import PlainSpec.CommandLine.Options
import PlainSpec.Data.Printer
import PlainSpec.Definition.Files
import PlainSpec.Settings.Load
import PlainSpec.Specification.Data
import PlainSpec.TestModule.Basic
import PlainSpec.Text.ControlSequence
import PlainSpec.Verification.Runner

/-!
# Running commands

A command works on a file tree with the settings that it finds there. It ends with an exit code, what it
prints, and the log; failures that a user can mend are printed or logged, and all others end the command
as they are.

## Main results

* `Ending.printed_success`: a command that succeeds prints its output.
-/

namespace PlainSpec

/-- What the program prints when it is asked for **help**, or was misused. -/
def usageLines : Text :=
  "Usage: specbind [--config FILE] [--env NAME] [--log-level LEVEL] COMMAND ...\n" ++
  "Commands: generate, verify, list-steps, parse\n"

/-- How a command **ends**. -/
structure Ending where
  exitCode : Nat
  output : Text
  errorOutput : Text
  /-- The failure that **nothing caught**. -/
  uncaught : Option Failure
  /-- The document that is **printed**. -/
  document : Option Document
  calls : List Call
  log : List LogRecord
  files : FileTree

namespace Ending

/-- A command that **succeeds** and prints a text. -/
def success (files : FileTree) (output : Text) : Ending := ⟨0, output, [], none, none, [], [], files⟩

/-- A command that **fails** without a word. -/
def failed (files : FileTree) : Ending := { success files [] with exitCode := 1 }

/-- A command that was **misused**. -/
def misused (files : FileTree) : Ending :=
  { success files [] with exitCode := 2, errorOutput := usageLines }

/-- Put a record in front of the **log**. -/
def after (records : List LogRecord) (ending : Ending) : Ending :=
  { ending with log := records ++ ending.log }

/-- A command that fails and **logs** why. -/
def failedWith (files : FileTree) (severity : Severity) (message : Text) : Ending :=
  (failed files).after [⟨severity, message⟩]

/-- A command that ends with a failure that **nothing caught**. -/
def raised (files : FileTree) (failure : Failure) : Ending :=
  { failed files with uncaught := some failure }

/-- A command that fails and **prints** why. The line breaks off where a message does. -/
def complained (files : FileTree) (failure : Failure) : Ending :=
  { failed files with
    errorOutput := "Error: " ++ failure.message ++ (if failure.breaksOff then [] else ['\n']) }

/-- An ending whose outputs hold **no control sequences**. -/
def plain (ending : Ending) : Ending :=
  { ending with output := Text.plain ending.output, errorOutput := Text.plain ending.errorOutput }

/-- What a command **prints**: its output, or the document that it read. -/
def printed (ending : Ending) : Text :=
  match ending.document with
  | some document => document.toData.toText ++ ['\n']
  | none => ending.output

/-- What a command prints **about a failure**, caught or not. -/
def complaint (ending : Ending) : Text :=
  match ending.uncaught with
  | some failure => "Error: " ++ failure.message ++ ['\n']
  | none => ending.errorOutput

/-- The files that a command **wrote**, with their texts. Files that were there before hold bytes. -/
def written (ending : Ending) : List (Path × Text) :=
  ending.files.nodes.filterMap fun (place, node) =>
    match node with
    | .file (.text t) => some (⟨place⟩, t)
    | _ => none

theorem printed_success (files : FileTree) (output : Text) : (success files output).printed = output := rfl

end Ending

/-- The paths of **steps**: those that were given, or else those in the settings. -/
def stepsInForce (given : List Text) (settings : Settings) : List Datum :=
  if given.isEmpty then settings.stepPaths else given.map .text

/-- The **files** of a command: those that were given, or else the entry in the settings. -/
def filesInForce (given : List Text) (settings : Settings) : List Text :=
  if given.isEmpty then [((settings.get? "features").getD .null).asText] else given

namespace Settings

/-- The **languages** that the settings ask for. -/
def languages (settings : Settings) (tree : FileTree) : Except Failure Languages := do
  let file ← Datum.textSetting .notPath (settings.get? "languages_file")
  let default := ((settings.get? "language").map Datum.asText).getD defaultLanguageCode
  Languages.load tree file default

/-- Load **steps** into a registry; a path that is no text ends the loading. -/
def loadSteps (tree : FileTree) (paths : List Datum) : Except Failure (List Definition) × Registry :=
  Registry.loadEach
    (fun r path =>
      match Datum.pathSetting path with
      | .ok path => r.load tree (Path.ofText path)
      | .error failure => (.error failure, r))
    (Registry.empty Catalog.standard) paths

end Settings

/-- The **warnings** about definitions that will never match. -/
def Registry.warnings (r : Registry) : List LogRecord :=
  r.definitions.filterMap fun d => d.fault?.map fun fault =>
    ⟨.warning, fault.message ++ "; '" ++ d.name ++ "' will never match a step"⟩

namespace Command

/-- The log record about a command that **found no files**. -/
def nothingFound (tree : FileTree) : Ending := Ending.failedWith tree .warning "No specification files found"

/-- End a command with a failure: those that a user can mend are **logged**. -/
def logFailure (tree : FileTree) (activity : Text) (failure : Failure) : Ending :=
  if failure.isMendable then Ending.failedWith tree .error (activity ++ " failed: " ++ failure.message)
  else Ending.raised tree failure

/-- **Generate** test modules. -/
def runGenerate (tree : FileTree) (settings : Settings) (files : List Text)
    (outputFolder baseClass : Option Text) (steps : List Text) (hasSetup reports : Bool) : Ending :=
  let given (option : Option Text) (setting : Text) : Option Datum :=
    match option.filter (!·.isEmpty) with
    | some t => some (.text t)
    | none => settings.get? setting
  let reports := reports && ((settings.get? "generate.report_undefined").getD (.bool true)).isTruthy
  let generator := do
    Generator.make (← settings.languages tree) (given outputFolder "generate.output_dir")
      (given baseClass "generate.base_class") hasSetup reports (stepsInForce steps settings)
  match generator with
  | .error failure => logFailure tree "Generation" failure
  | .ok g =>
    match g.generateAll tree (filesInForce files settings) with
    | (.error failure, tree) => logFailure tree "Generation" failure
    | (.ok [], tree) => nothingFound tree
    | (.ok generated, tree) => Ending.success tree (generated.flatMap fun m =>
        (if m.written then "Wrote ".toList else "Unchanged ".toList) ++ m.file.toText ++ ['\n'])

/-- The line about the **result of a scenario**. -/
def resultLine (result : ScenarioResult) : Text :=
  Text.padRight 9 (Text.upper result.status.word) ++ " " ++ result.feature ++ ": " ++ result.scenario ++
    ['\n']

/-- How many scenarios have a **status**. -/
def countStatus (results : List ScenarioResult) (word : Text) : Nat :=
  (results.filter fun result => result.status.word == word).length

/-- **Verify** specifications. -/
def runVerify (tree : FileTree) (settings : Settings) (files steps : List Text) (strict : Option Bool)
    (sideBySide : Bool) : Ending :=
  let strict := strict.getD ((settings.get? "verify.strict").getD (.bool false)).isTruthy
  let (loaded, registry) := Settings.loadSteps tree (stepsInForce steps settings)
  let documents := do
    let _ ← loaded
    let languages ← settings.languages tree
    Document.ofFiles languages.table tree (filesInForce files settings)
  Ending.after registry.warnings <|
    match documents with
    | .error failure => logFailure tree "Verification" failure
    | .ok [] => nothingFound tree
    | .ok documents =>
      let (results, runner) :=
        (Runner.start registry none).verifyDocuments sideBySide (documents.map Prod.snd)
      let ending :=
        match results with
        | .error failure => Ending.raised tree failure
        | .ok results =>
          let output := results.flatMap resultLine ++ ['\n'] ++ runner.report.toText ++ ['\n']
          let failed := countStatus results "failed"
          let undefined := countStatus results "undefined"
          if 0 < failed || (strict && 0 < undefined) then
            { Ending.failedWith tree .error ("Verification completed with " ++ Text.ofNat failed ++
                " failed and " ++ Text.ofNat undefined ++ " undefined scenarios") with output }
          else Ending.success tree output
      { ending.after runner.log with calls := runner.calls }

/-- The lines on the definitions **of a kind**. -/
def kindLines (kind : StepKind) (phrases : List Text) : Text :=
  let phraseLine (phrase : Text) : Text := "  " ++ phrase ++ ['\n']
  Text.upper kind.word ++ ['\n'] ++ phrases.flatMap phraseLine

/-- The line on a definition that **will never match**. -/
def invalidLine (d : Definition) : Text :=
  let fault : Text := d.fault?.elim "None" Failure.message
  "invalid: " ++ d.name ++ ": " ++ fault ++ ['\n']

/-- List the **steps** that are defined, and the definitions that will never match. -/
def runListSteps (tree : FileTree) (settings : Settings) (steps : List Text) : Ending :=
  let (loaded, registry) := Settings.loadSteps tree (stepsInForce steps settings)
  Ending.after registry.warnings <|
    match loaded with
    | .error failure =>
      if failure.isMendable then Ending.complained tree failure else Ending.raised tree failure
    | .ok _ =>
      match registry.describe with
      | .error failure => Ending.raised tree failure
      | .ok described =>
        let phrases := described.flatMap fun (kind, phrases) => kindLines kind phrases
        Ending.success tree (phrases ++ registry.invalid.flatMap invalidLine)

/-- Print a **document** as it is read. -/
def runParse (tree : FileTree) (settings : Settings) (file : Text) : Ending :=
  let document := do
    let languages ← settings.languages tree
    Document.ofFile languages.table tree (Path.ofText file)
  match document with
  | .error failure =>
    if failure.isMendable then Ending.complained tree failure else Ending.raised tree failure
  | .ok document => { Ending.success tree [] with document := some document }

/-- **Run** a command. -/
def run (tree : FileTree) (settings : Settings) : Command → Ending
  | generate files outputFolder baseClass steps hasSetup reports =>
    runGenerate tree settings files outputFolder baseClass steps hasSetup reports
  | verify files steps strict sideBySide => runVerify tree settings files steps strict sideBySide
  | listSteps steps => runListSteps tree settings steps
  | parse file => runParse tree settings file

end Command

/-- The **version** of the program, as it prints it. -/
def versionLine : Text := "specbind, version 1.0.0\n"

/-- **Run a call**: load its settings, set the level of the log, and run its command. -/
def CommandCall.run (call : CommandCall) (tree : FileTree) (vars : Variables) : Ending :=
  let (log, loaded) := Settings.load tree vars ⟨Path.ofText call.config, call.environment, none⟩
  Ending.after log <|
    match loaded with
    | .error failure =>
      match failure with
      | .configuration _ => Ending.complained tree failure
      | _ => Ending.raised tree failure
    | .ok (settings, vars) =>
      let level : Except Failure (Option Text) :=
        match call.logLevel.filter (!·.isEmpty) with
        | some name => .ok (some name)
        | none =>
          Datum.textSetting .notName (some ((settings.get? "logging.level").getD (.text Severity.info.name)))
      match level with
      | .error failure => Ending.raised tree failure
      | .ok level =>
        match readCommand call.name call.arguments with
        | .misused => Ending.misused tree
        | .help => Ending.success tree usageLines
        | .version => Ending.success tree versionLine
        | .run command =>
          let ending := command.run tree settings
          let inForce := levelInForce level (vars.lookup "SPECBIND_LOG_LEVEL".toList)
          { ending with log := LogRecord.passing inForce ending.log }

/-- **Run the program** with its arguments. What texts hold of control sequences is not printed. -/
def runProgram (tree : FileTree) (vars : Variables) (arguments : List Text) : Ending :=
  match readCall arguments with
  | .misused => Ending.misused tree
  | .help => Ending.success tree usageLines
  | .version => Ending.success tree versionLine
  | .run call => (call.run tree vars).plain

end PlainSpec
