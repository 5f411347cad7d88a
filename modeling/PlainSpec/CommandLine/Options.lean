import PlainSpec.Number.Integer

/-!
# Options

The arguments of a command are options and files. An option is a long name behind two hyphens or a letter
behind one; it may have a value, which is the next argument unless it is written with the option. Letters
may be put together, and two hyphens alone end the options.
-/

namespace PlainSpec

/-- An **option**: the names under which it is given, and whether a value comes with it. -/
structure OptionSpec where
  names : List Text
  takesValue : Bool
  deriving DecidableEq, Repr

/-- The **name** under which an option is known, which is its first one. -/
def OptionSpec.key (spec : OptionSpec) : Text := spec.names.head?.getD []

/-- What **was given**: options by their keys with their values, in order, and everything else. -/
structure Given where
  options : List (Text × Text)
  others : List Text
  deriving DecidableEq, Repr

namespace Given

/-- Whether an option was **given** at all. -/
def has (given : Given) (key : Text) : Bool := given.options.any (·.1 == key)

/-- The values that were given for an option. -/
def all (given : Given) (key : Text) : List Text := (given.options.filter (·.1 == key)).map Prod.snd

/-- The **last value** that was given for an option. -/
def last? (given : Given) (key : Text) : Option Text := (given.all key).getLast?

end Given

/-- The options in **one argument**, and the key of an option whose value is still to come. -/
structure OptionArgument where
  options : List (Text × Text)
  awaiting : Option Text
  deriving DecidableEq, Repr

/-- The option with a name. -/
def findOption (specs : List OptionSpec) (name : Text) : Option OptionSpec :=
  specs.find? (·.names.contains name)

/-- The options that **letters** put together stand for; what follows an option with a value is the
value. -/
def readLetters (specs : List OptionSpec) : Text → Option OptionArgument
  | [] => some ⟨[], none⟩
  | letter :: rest =>
    match findOption specs ['-', letter] with
    | none => none
    | some spec =>
      if spec.takesValue then
        some (if rest.isEmpty then ⟨[], some spec.key⟩ else ⟨[(spec.key, rest)], none⟩)
      else (readLetters specs rest).map fun found => { found with options := (spec.key, []) :: found.options }

/-- The option that a **long name** stands for, with its value behind an equals sign if there is one. -/
def readLong (specs : List OptionSpec) (argument : Text) : Option OptionArgument :=
  let name := argument.takeWhile (· != '=')
  match findOption specs name, argument.drop name.length with
  | some spec, _ :: value => if spec.takesValue then some ⟨[(spec.key, value)], none⟩ else none
  | some spec, [] => some (if spec.takesValue then ⟨[], some spec.key⟩ else ⟨[(spec.key, [])], none⟩)
  | none, _ => none

/-- The options in an **argument** that begins with a hyphen. -/
def readOption (specs : List OptionSpec) (argument : Text) : Option OptionArgument :=
  match argument with
  | '-' :: '-' :: _ => readLong specs argument
  | _ :: letters => readLetters specs letters
  | [] => none

/-- Whether an argument **is an option**. A hyphen alone is none. -/
def isOption (argument : Text) : Bool := argument.head? == some '-' && 1 < argument.length

/-- Read **arguments**. If options may not come after other arguments, the first other argument ends
them. -/
def readArguments (specs : List OptionSpec) (mixed : Bool) : List Text → Option Given
  | [] => some ⟨[], []⟩
  | argument :: rest =>
    if argument = ['-', '-'] then some ⟨[], rest⟩
    else if isOption argument then
      match readOption specs argument with
      | none => none
      | some ⟨options, none⟩ =>
        (readArguments specs mixed rest).map fun given => { given with options := options ++ given.options }
      | some ⟨options, some key⟩ =>
        match rest with
        | [] => none
        | value :: rest =>
          (readArguments specs mixed rest).map fun given =>
            { given with options := options ++ (key, value) :: given.options }
    else if mixed then
      (readArguments specs mixed rest).map fun given => { given with others := argument :: given.others }
    else some ⟨[], argument :: rest⟩

/-! ### Commands -/

/-- The option that asks for **help**. -/
def helpOption : OptionSpec := ⟨["--help"], false⟩

/-- The options **in front of** a command. -/
def globalOptions : List OptionSpec :=
  [⟨["--config", "-c"], true⟩, ⟨["--env", "-e"], true⟩, ⟨["--log-level"], true⟩, ⟨["--version"], false⟩,
    helpOption]

/-- The option that names **steps**. -/
def stepsOption : OptionSpec := ⟨["--steps", "-s"], true⟩

/-- The options of **generating** test modules. -/
def generateOptions : List OptionSpec :=
  [⟨["--output-dir", "-o"], true⟩, ⟨["--base-class"], true⟩, stepsOption, ⟨["--no-setup"], false⟩,
    ⟨["--no-report"], false⟩, helpOption]

/-- The options of **verifying** specifications. -/
def verifyOptions : List OptionSpec :=
  [stepsOption, ⟨["--strict"], false⟩, ⟨["--no-strict"], false⟩, ⟨["--parallel", "-p"], true⟩, helpOption]

/-- A **command** with what was given for it. Strictness is left open if neither of its options is
given. -/
inductive Command
  | generate (files : List Text) (outputFolder baseClass : Option Text) (steps : List Text)
      (hasSetup reports : Bool)
  | verify (files steps : List Text) (strict : Option Bool) (sideBySide : Bool)
  | listSteps (steps : List Text)
  | parse (file : Text)
  deriving DecidableEq, Repr

/-- What arguments **ask for**. -/
inductive Request (α : Type)
  | run (request : α)
  | help
  | version
  | misused
  deriving Repr

/-- The names of the commands. -/
def commandNames : List Text := ["generate", "verify", "list-steps", "parse"]

/-- Whether the **last** of two opposite options that was given is the first one. -/
def lastOf (given : Given) (yes no : Text) : Option Bool :=
  ((given.options.map Prod.fst).filter fun key => key == yes || key == no).getLast?.map (· == yes)

/-- The command that a name and what was given **make up**. -/
def makeCommand? (name : Text) (given : Given) : Option Command :=
  if name == "generate" then
    some (.generate given.others (given.last? "--output-dir") (given.last? "--base-class")
      (given.all "--steps") (!given.has "--no-setup") (!given.has "--no-report"))
  else if name == "verify" then
    match (given.last? "--parallel").map readInteger with
    | some (.error _) => none
    | some (.ok n) =>
      some (.verify given.others (given.all "--steps") (lastOf given "--strict" "--no-strict") (1 < n))
    | none =>
      some (.verify given.others (given.all "--steps") (lastOf given "--strict" "--no-strict") false)
  else if name == "list-steps" then
    if given.others.isEmpty then some (.listSteps (given.all "--steps")) else none
  else
    match given.others with
    | [file] => some (.parse file)
    | _ => none

/-- The options of the command with a name. -/
def commandOptions (name : Text) : List OptionSpec :=
  if name == "generate" then generateOptions
  else if name == "verify" then verifyOptions
  else if name == "list-steps" then [stepsOption, helpOption]
  else [helpOption]

/-- The **command** that a name and its arguments ask for. -/
def readCommand (name : Text) (arguments : List Text) : Request Command :=
  match readArguments (commandOptions name) true arguments with
  | none => .misused
  | some given =>
    if given.has "--help" then .help
    else match makeCommand? name given with
      | some command => .run command
      | none => .misused

/-- What stands **in front of** a command, the command's name and its arguments. -/
structure CommandCall where
  config : Text
  environment : Option Text
  logLevel : Option Text
  name : Text
  arguments : List Text
  deriving DecidableEq, Repr

/-- The **settings file** of a call that names none. -/
def defaultConfig : Text := "specbind.yaml"

/-- The **call** that arguments ask for. The arguments of the command itself are read later. -/
def readCall (arguments : List Text) : Request CommandCall :=
  match readArguments globalOptions false arguments with
  | none => .misused
  | some given =>
    match given.options.find? fun (key, _) => key == "--help" || key == "--version", given.others with
    | some (key, _), _ => if key == "--help" then .help else .version
    | none, name :: rest =>
      if commandNames.contains name then
        .run ⟨(given.last? "--config").getD defaultConfig, given.last? "--env", given.last? "--log-level",
          name, rest⟩
      else .misused
    | none, [] => .misused

end PlainSpec
