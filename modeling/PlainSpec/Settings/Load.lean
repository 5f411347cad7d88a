import PlainSpec.Files.Tree
import PlainSpec.Log
import PlainSpec.Settings.Basic

/-!
# Loading settings

Settings are read from a file, if it is there, and from a second file for the environment that is asked
for. Variables come from the run's environment and, where that lacks them, from a file of variables next to
the settings.
-/

namespace PlainSpec

namespace Variables

/-- The variable that a **line** names, and its value behind an equals sign, if there is one. A remark may
follow the value after white space, or stand in the place of an equals sign. -/
def ofLine? (line : Text) : Option (Text × Option Text) :=
  let line := Text.trimLeft line
  let line :=
    match Text.afterPrefix? "export" line with
    | some (c :: rest) => if isBlank c then Text.trimLeft rest else line
    | _ => line
  let name := line.takeWhile fun c => c != '=' && c != '#' && !isBlank c
  if name.isEmpty then none
  else match Text.trimLeft (line.drop name.length) with
    | '=' :: value => some (name, some (Text.trimRight (Text.beforeRemark (Text.trimLeft value))))
    | '#' :: _ | [] => some (name, none)
    | _ => none

/-- The variables that a **text** sets, line by line. Of several lines for a variable the last one counts;
without a value it leaves the variable unset. -/
def ofText (t : Text) : Variables :=
  (Entries.ofPairs ((Text.splitOn (· == '\n') t).filterMap ofLine?)).filterMap
    fun (name, value) => value.map (name, ·)

/-- Variables with **others added** that they lack. -/
def adding (vars others : Variables) : Variables :=
  vars ++ others.filter fun entry => (vars.lookup entry.1).isNone

end Variables

namespace Settings

/-- The settings in a **file**. -/
def ofFile (tree : FileTree) (path : Path) : Except Failure Settings :=
  match tree.readData path with
  | .error fault => .error (.file fault)
  | .ok (.error .malformed) => .error (.configuration (.brokenData path))
  | .ok (.error fault) => .error (.data fault)
  | .ok (.ok .null) => .ok []
  | .ok (.ok (.mapping entries)) => .ok entries
  | .ok (.ok _) => .error (.configuration (.dataNotMapping path))

/-- The key under which the settings of an environment hold **overrides**. -/
def overridesKey : Scalar := .text "overrides"

/-- Settings with those of an **environment** over them; its overrides come first. -/
def withEnvironment (settings environment : Settings) : Except Failure Settings :=
  match environment.lookup overridesKey with
  | none => .ok (settings.merge environment)
  | some (.mapping overrides) =>
    .ok ((settings.override overrides).merge (environment.filter (·.1 != overridesKey)))
  | some _ => .error .notMapping

/-- Settings **fit for use**: the steps are a list of paths, and the language is a code. -/
def validate (settings : Settings) : Except Failure Settings :=
  let checked : Option Settings :=
    match settings.lookup (.text "steps") with
    | some (.text path) => some (Entries.put (.text "steps") (Datum.list [.text path]) settings)
    | some (.list _) => some settings
    | _ => none
  match checked with
  | none => .error (.configuration .stepsNotPaths)
  | some settings =>
    match settings.lookup (.text "language") with
    | some (.text _) => .ok settings
    | _ => .error (.configuration .languageNotCode)

/-- Where settings are **loaded** from: their file, the name of an environment, and a file of variables;
empty names are none. -/
structure Source where
  file : Path
  environment : Option Text
  variablesName : Option Text

/-- The file of **variables**: the one that is named, or else the one next to the settings. -/
def Source.variablesFile (source : Source) : Path :=
  match source.variablesName.filter (!·.isEmpty) with
  | some name => Path.ofText name
  | none => source.file.parent.append ⟨[".env"]⟩

/-- The file with the settings of the **environment** that is asked for. -/
def Source.environmentFile? (source : Source) : Option Path :=
  (source.environment.filter (!·.isEmpty)).map fun name =>
    (source.file.parent.append ⟨["environments"]⟩).append (Path.ofText (name ++ ".yaml"))

/-- The variables of a run and those in a **file of variables**, which need not be there. -/
def loadVariables (tree : FileTree) (vars : Variables) (source : Source) : Except Failure Variables :=
  let path := source.variablesFile
  if tree.hasPath path && !tree.hasFolder path then
    match tree.readText path with
    | .ok t => .ok (vars.adding (Variables.ofText t))
    | .error fault => .error (.file fault)
  else .ok vars

/-- **Load** settings, together with the variables that were in force. A missing file of an environment is
logged, whatever comes of the settings. -/
def load (tree : FileTree) (vars : Variables) (source : Source) :
    List LogRecord × Except Failure (Settings × Variables) :=
  let base := do
    let vars ← loadVariables tree vars source
    let settings ← if tree.hasPath source.file then ofFile tree source.file else .ok []
    return (defaults.merge settings, vars)
  match base with
  | .error failure => ([], .error failure)
  | .ok (settings, vars) =>
    let finish (settings : Settings) : Except Failure (Settings × Variables) :=
      (validate (substituteEntries vars settings)).map (·, vars)
    match source.environmentFile? with
    | none => ([], finish settings)
    | some path =>
      if tree.hasPath path then
        ([], (ofFile tree path).bind fun environment =>
          (withEnvironment settings environment).bind finish)
      else ([⟨.warning, "Environment config not found: " ++ path.toText⟩], finish settings)

/-- The **paths of steps** in settings. -/
def stepPaths (settings : Settings) : List Datum :=
  match settings.lookup (.text "steps") with
  | some (.list paths) => paths
  | _ => []

end Settings

end PlainSpec
