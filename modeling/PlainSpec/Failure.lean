import PlainSpec.Data.Fault
import PlainSpec.Files.Path
import PlainSpec.Inline.Catalog
import PlainSpec.Language.Basic
import PlainSpec.Specification.Fault

/-!
# Failures

Everything that an operation can fail with, as causes; `Failure.message` gives the wording. A step
function that fails does so with an exception of its own, of which only the kind and the message matter.
-/

namespace PlainSpec

/-- What a **step function raises**: the kind of the exception, and the message it was made with. -/
structure Raised where
  kind : Text
  message : Option Text
  deriving DecidableEq, Repr

/-- What an exception **says**: its message, which a missing key has in quotation marks. -/
def Raised.text (raised : Raised) : Text :=
  match raised.message with
  | none => []
  | some message => if raised.kind == "KeyError" then Text.quoted message else message

/-- Why a **file** cannot be used. -/
inductive FileFault
  | missing (path : Path)
  | isDirectory (path : Path)
  | notDirectory (path : Path)
  | alreadyThere (path : Path)
  | undecodable
  deriving DecidableEq, Repr

/-- What a file fault **says**. -/
def FileFault.message : FileFault → Text
  | missing path => "[Errno 2] No such file or directory: " ++ Text.quoted path.toText
  | isDirectory path => "[Errno 21] Is a directory: " ++ Text.quoted path.toText
  | notDirectory path => "[Errno 20] Not a directory: " ++ Text.quoted path.toText
  | alreadyThere path => "[Errno 17] File exists: " ++ Text.quoted path.toText
  | undecodable => []

/-- What is wrong with a **configuration**, a language table or a step module. -/
inductive ConfigFault
  | noDefaultLanguage (code : Text)
  | unreadableTable (path : Path) (cause : FileFault)
  | brokenTable (path : Path)
  | tableNotMapping (path : Path)
  | languageNotMapping (code : Text) (path : Path)
  | unknownKeywords (code : Text) (names : List Text)
  | unclearKind (name : Text)
  | noModule (path : Path)
  | brokenModule (path : Path) (cause : Text)
  | noBaseClass
  | brokenData (path : Path)
  | dataNotMapping (path : Path)
  | stepsNotPaths
  | languageNotCode
  deriving DecidableEq, Repr

/-- What a configuration fault **says**. -/
def ConfigFault.message : ConfigFault → Text
  | noDefaultLanguage code => "Language table has no entry for default language '" ++ code ++ "'"
  | unreadableTable path cause =>
    "Cannot read language table " ++ path.toText ++ ": " ++ cause.message
  | brokenTable path => "Cannot read language table " ++ path.toText
  | tableNotMapping path =>
    "Language table " ++ path.toText ++ " must be a mapping of language codes"
  | languageNotMapping code path =>
    "Language '" ++ code ++ "' in " ++ path.toText ++ " must be a mapping of keywords"
  | unknownKeywords code names =>
    "Language '" ++ code ++ "' has unknown keywords: " ++ Text.join ", " names
  | unclearKind name =>
    "Cannot tell whether '" ++ name ++ "' is a given, when or then step"
  | noModule path => "Step definition module not found: " ++ path.toText
  | brokenModule path cause =>
    "Cannot load step definitions from " ++ path.toText ++ ": " ++ cause
  | noBaseClass =>
    "Modules generated without a setup method need a base class that provides the runner"
  | brokenData path => "Invalid YAML in " ++ path.toText
  | dataNotMapping path => "Top level of " ++ path.toText ++ " must be a mapping"
  | stepsNotPaths => "'steps' must be a path or a list of paths"
  | languageNotCode => "'language' must be a language code"

/-- Why an annotation has **no meaning**: it is no expression, a name in it stands for nothing, what it
names has no such member, or what it names is no type that is used like this. -/
inductive AnnotationFault
  | malformed
  | unknownName
  | unknownMember
  | misused
  deriving DecidableEq, Repr

/-- Why an **operation fails**. -/
inductive Failure
  | specification (fault : SpecFault) (file : Option Path)
  | configuration (fault : ConfigFault)
  | unsupported (type : Option ParamType) (definition : Option Text)
  | undefinedSteps (texts : List Text)
  | invocation (step : Text) (cause : Raised)
  | value (fault : ValueFault)
  | data (fault : DataFault)
  | typing (fault : AnnotationFault)
  | noName
  | noDocument
  | missingKey (key : Text)
  | unusablePattern
  | notDecimal
  | wrongType
  | file (fault : FileFault)
  | noSuchLine
  | notMapping
  | notLoadable
  | notName
  | notPath
  deriving Repr

namespace Failure

/-- The text of a type that **nothing serves**. -/
def unsupportedMessage (type : Option ParamType) (definition : Option Text) : Text :=
  "No inline type handles parameter type " ++ typeName type ++
    match definition with
    | some name => if name.isEmpty then [] else " (step definition " ++ name ++ ")"
    | none => []

/-- What a failure **says**. -/
def message : Failure → Text
  | specification fault none => fault.message
  | specification fault (some path) => path.toText ++ ": " ++ fault.message
  | configuration fault => fault.message
  | unsupported type definition => unsupportedMessage type definition
  | undefinedSteps texts =>
    "Undefined steps:\n" ++ Text.join "\n" (texts.map fun t => "  " ++ t)
  | invocation step cause =>
    "Step \"" ++ step ++ "\" failed: " ++ cause.kind ++ ": " ++ cause.text
  | value fault => fault.message
  | data fault => fault.message
  | noName => "name must not be None"
  | noDocument => "No specification document loaded"
  | missingKey key => Text.quoted key
  | file fault => fault.message
  | typing _ | unusablePattern | notDecimal | wrongType | noSuchLine | notMapping | notLoadable
  | notName | notPath => []

/-- Whether a failure only means that a text **has no value**, so that matching may go on. -/
def isValueFault : Failure → Bool
  | value _ => true
  | _ => false

/-- Whether a failure is one that a **user can mend**, in a specification, in the settings or among the
files. -/
def isMendable : Failure → Bool
  | specification _ _ | configuration _ | unsupported _ _ | undefinedSteps _ | invocation _ _ => true
  | file fault => fault != .undecodable
  | _ => false

/-- Whether a message **breaks off** where the details of broken data would follow. -/
def breaksOff : Failure → Bool
  | configuration (.brokenData _) | configuration (.brokenTable _) => true
  | _ => false

/-- The failure that a catalog's fault **amounts to**. -/
def ofInline : InlineFault → Failure
  | .unsupported type => unsupported type none
  | .conversion (.value fault) => value fault
  | .conversion .decimal => notDecimal
  | .conversion .type => wrongType

end Failure

end PlainSpec
