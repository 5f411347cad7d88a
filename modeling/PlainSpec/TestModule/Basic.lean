import PlainSpec.Settings.Basic
import PlainSpec.Specification.Files
import PlainSpec.TestModule.Names

/-!
# Test modules

For a specification file a test module can be written, which verifies every scenario of the file in a test
of its own. All paths in the module are relative to the folder that it is in.
-/

namespace PlainSpec

/-- What a test module **says**: the names it uses, the paths it refers to and the tests it makes. -/
structure TestModule where
  fileName : Text
  specification : Text
  steps : List Text
  languagesFile : Option Text
  language : Text
  featureName : Text
  /-- Why the tests are **skipped**, if they are. -/
  skipReason : Option Text
  className : Text
  baseModule : Option Text
  baseClass : Option Text
  hasSetup : Bool
  reportsUndefined : Bool
  tests : List (Text × Text)
  deriving Repr

namespace TestModule

/-- A path in quotation marks, **from the folder** of the module. -/
def here (path : Text) : Text := "HERE / " ++ Text.quoted path

/-- The lines **above the class**. -/
def opening (m : TestModule) : List Text :=
  let parts : List (List Text) := [
    ["# This code was generated by specbind from " ++ m.fileName ++ ".",
     "# Changes will be lost when it is regenerated.",
     "from pathlib import Path",
     ""],
    if m.skipReason.isSome then ["import pytest", ""] else [],
    ["from specbind import LanguageTable, SpecRunner"],
    match m.baseModule with
    | some base => ["from " ++ base ++ " import " ++ m.baseClass.getD []]
    | none => [],
    ["",
     "HERE = Path(__file__).parent",
     "SPECIFICATION = " ++ here m.specification,
     "STEPS = [" ++ Text.join ", " (m.steps.map here) ++ "]",
     "LANGUAGES_FILE = " ++ (m.languagesFile.map here).getD "None",
     "LANGUAGE = " ++ Text.quoted m.language,
     "",
     ""]]
  parts.flatten

/-- The lines that **begin the class**. -/
def header (m : TestModule) : List Text :=
  let base : Text :=
    match m.baseClass with
    | some base => "(" ++ base ++ ")"
    | none => []
  let parts : List (List Text) := [
    match m.skipReason with
    | some reason => ["@pytest.mark.skip(reason=" ++ Text.quoted reason ++ ")"]
    | none => [],
    ["class Test" ++ m.className ++ base ++ ":",
     "    " ++ Text.quoted m.featureName]]
  parts.flatten

/-- The lines that **set up** the runner. -/
def setup : List Text :=
  ["",
   "    @classmethod",
   "    def setup_class(cls):",
   "        languages = LanguageTable.load(LANGUAGES_FILE, default=LANGUAGE)",
   "        cls.runner = SpecRunner.from_file(SPECIFICATION, STEPS, languages)"]

/-- The lines that **report** undefined steps at the end. -/
def teardown : List Text :=
  ["",
   "    @classmethod",
   "    def teardown_class(cls):",
   "        cls.runner.report_undefined_steps()"]

/-- The lines of **one test**. -/
def testLines (test : Text × Text) : List Text :=
  ["",
   "    def " ++ test.1 ++ "(self):",
   "        self.runner.verify(" ++ Text.quoted test.2 ++ ")"]

/-- A test module **as source text**, every line ended by a line feed. -/
def toText (m : TestModule) : Text :=
  let lines := m.opening ++ m.header ++ (if m.hasSetup then setup else []) ++
    (if m.reportsUndefined then teardown else []) ++ m.tests.flatMap testLines
  lines.flatMap fun line => line ++ ['\n']

end TestModule

/-! ### Generating -/

/-- What test modules are generated **with**. The base class is as it stands in the settings; it has to be
a name once a module is made. -/
structure Generator where
  languages : Languages
  outputFolder : Option Path
  baseClass : Option Datum
  hasSetup : Bool
  reportsUndefined : Bool
  steps : List Path

/-- A test module that was **generated**, and whether its file had to be written. -/
structure GeneratedModule where
  specification : Path
  file : Path
  written : Bool
  deriving DecidableEq, Repr

namespace Generator

/-- A **generator**. Tests that do not set up a runner need a base class that provides it. A folder or a
base class that counts as false is none. -/
def make (languages : Languages) (outputFolder baseClass : Option Datum) (hasSetup reportsUndefined : Bool)
    (steps : List Datum) : Except Failure Generator :=
  let baseClass := baseClass.filter Datum.isTruthy
  if !hasSetup && baseClass.isNone then .error (.configuration .noBaseClass)
  else do
    let folder ← Datum.textSetting .notPath outputFolder
    let steps ← steps.mapM Datum.pathSetting
    return ⟨languages, folder.map Path.ofText, baseClass, hasSetup, reportsUndefined,
      steps.map Path.ofText⟩

/-- The **file** of the test module for a specification. -/
def moduleFile (g : Generator) (specification : Path) : Path :=
  (g.outputFolder.getD specification.parent).append
    ⟨["test_" ++ Text.lower (identifierOf specification.stem) ++ ".py"]⟩

/-- The module and the class in the **name of a base class**, where a colon counts as a dot. -/
def splitBaseClass (name : Text) : Option Text × Option Text :=
  let (base, last) := Text.splitLast (· == '.') (name.map fun c => if c = ':' then '.' else c)
  let present (t : Text) : Option Text := if t.isEmpty then none else some t
  (present base, present last)

/-- The **test module** for a document, with a base class. -/
def testModule (g : Generator) (baseClass : Option Text) (document : Document)
    (specification file : Path) : TestModule :=
  let relative (path : Path) : Text := (path.relativeTo file.parent).toText
  let base := (baseClass.map splitBaseClass).getD (none, none)
  { fileName := specification.name
    specification := relative specification
    steps := g.steps.map relative
    languagesFile := g.languages.file.map fun name => relative (Path.ofText name)
    language := g.languages.table.default
    featureName := document.feature.elim specification.stem (·.name)
    skipReason := document.feature.bind fun feature => feature.headers.lookup "ignore".toList
    className := classNameOf specification.stem
    baseModule := base.1
    baseClass := base.2
    hasSetup := g.hasSetup
    reportsUndefined := g.reportsUndefined
    tests := PlainSpec.tests document.scenarioNames }

/-- **Write** the text of a test module, unless its file says the same already. -/
def store (tree : FileTree) (specification file : Path) (text : Text) :
    Except FileFault (GeneratedModule × FileTree) := do
  let old ← if tree.hasPath file then tree.readText file else .ok []
  if old = text then return (⟨specification, file, false⟩, tree)
  else return (⟨specification, file, true⟩, ← tree.put file (.text text))

/-- Generate the test module for **one specification**. -/
def generate (g : Generator) (tree : FileTree) (specification : Path) :
    Except Failure (GeneratedModule × FileTree) := do
  let file := g.moduleFile specification
  let document ← Document.ofFile g.languages.table tree specification
  let baseClass ← Datum.textSetting .notName g.baseClass
  (store tree specification file (g.testModule baseClass document specification file).toText).mapError .file

/-- Generate the test modules for several specifications **in order**; those generated before a failure
stay. -/
def generateEach (g : Generator) : FileTree → List Path → Except Failure (List GeneratedModule) × FileTree
  | tree, [] => (.ok [], tree)
  | tree, specification :: rest =>
    match g.generate tree specification with
    | .error failure => (.error failure, tree)
    | .ok (generated, tree) =>
      let (others, tree) := g.generateEach tree rest
      (others.map (generated :: ·), tree)

/-- Generate the test modules for **all files** that a list of entries stands for. -/
def generateAll (g : Generator) (tree : FileTree) (entries : List Text) :
    Except Failure (List GeneratedModule) × FileTree :=
  g.generateEach tree (tree.specifications entries)

end Generator

end PlainSpec
