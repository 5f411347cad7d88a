import PlainSpec.Definition.Registry
import PlainSpec.Definition.TypeExpression

/-!
# Signatures of step functions

The parameters of a step function are read off its signature. A parameter without annotation is a text,
unless its name is one of those for blocks. An annotation may be a text that spells a type; a name in it
that is not known leaves all annotations of the function as they are written.
-/

namespace PlainSpec

/-- What is **written behind a parameter**: nothing, the word for nothing, or a type. -/
inductive Annotation
  | absent
  | nothing
  | type (type : ParamType)
  deriving Repr, Inhabited

/-- A **parameter in a signature**. A variadic one takes what is left over and counts for nothing else. -/
structure SignatureParameter where
  name : Text
  written : Annotation
  hasDefault : Bool
  variadic : Bool
  deriving Repr

/-- A **function in a step module**. -/
structure FunctionItem where
  name : Text
  parameters : List SignatureParameter
  decorator : Option StepKind
  raises : CallOutcome

/-- A function is shown by **its name and its parameters**. -/
instance : Repr FunctionItem := ⟨fun f => reprPrec (f.name, f.parameters)⟩

namespace ParamType

mutual

/-- A type whose **texts are read** as the types that they spell. -/
def resolve (scope : TypeScope) : ParamType → Except AnnotationFault ParamType
  | unresolved t => typeOfAnnotation scope t
  | listOf item => (resolve scope item).map listOf
  | recordOf key value =>
    (resolve scope key).bind fun key => (resolve scope value).map fun value => recordOf key value
  | union members => (resolveAll scope members).map unionOf
  | t => .ok t

/-- Types whose texts are read **in order**. -/
def resolveAll (scope : TypeScope) : List ParamType → Except AnnotationFault (List ParamType)
  | [] => .ok []
  | t :: rest => (resolve scope t).bind fun t => (resolveAll scope rest).map fun rest => t :: rest

end

end ParamType

namespace SignatureParameter

/-- A parameter whose annotation is **read**; nothing as an annotation is a type like others. -/
def resolve (scope : TypeScope) (p : SignatureParameter) : Except AnnotationFault SignatureParameter :=
  match p.written with
  | .absent => .ok p
  | .nothing => .ok { p with written := .type .nothing }
  | .type t => (t.resolve scope).map fun t => { p with written := .type t }

/-- The **type** of a parameter by its annotation. -/
def type (p : SignatureParameter) : Option ParamType :=
  match p.written with
  | .absent => if blockParameterNames.contains p.name then none else some .text
  | .nothing => none
  | .type t => some t

end SignatureParameter

namespace FunctionItem

/-- The parameters that a step function takes, by the **annotations** of a signature. -/
def takenParameters (signature : List SignatureParameter) : List Parameter :=
  (signature.filter (!·.variadic)).map fun p => ⟨p.name, p.type, p.hasDefault⟩

/-- The **parameters** that a step function takes. Where an annotation names what is not known, all of them
are left as they are written. -/
def stepParameters (scope : TypeScope) (f : FunctionItem) : Except AnnotationFault (List Parameter) :=
  match f.parameters.mapM (·.resolve scope) with
  | .ok signature => .ok (takenParameters signature)
  | .error .unknownName => .ok (takenParameters f.parameters)
  | .error fault => .error fault

/-- The **step function** of an item. Its calls are recorded with all parameters. -/
def stepFunction (f : FunctionItem) : StepFunction := ⟨f.name, true, f.raises⟩

end FunctionItem

/-- **Register a function**: under another name if one is given, with its decorator telling the kind
unless a kind is given. The scope tells what the names in its annotations stand for. -/
def Registry.registerFunction (r : Registry) (scope : TypeScope) (f : FunctionItem)
    (kind : Option StepKind) (name : Text) : Except Failure (Definition × Registry) :=
  match f.stepParameters scope with
  | .ok parameters =>
    r.register (if name.isEmpty then f.name else name) (kind <|> f.decorator) parameters f.stepFunction
  | .error fault => .error (.typing fault)

/-! ### Step modules -/

/-- An **item of a step module**. -/
inductive ModuleItem
  | function (f : FunctionItem)
  | alias (name of : Text)
  | type (name : Text)
  | value (name : Text)
  | broken (raised : Raised)
  deriving Repr

/-- What a **name in a module** stands for: a function of the module, or something that annotations may
mention. -/
inductive ModuleName
  | step (f : FunctionItem)
  | thing (meaning : TypeMeaning)
  deriving Repr

/-- The **names** that a module defines. -/
abbrev ModuleNames := Entries ModuleName

namespace ModuleName

/-- What a name means **in an annotation**. -/
def meaning : ModuleName → TypeMeaning
  | step f => .ofValue f.name
  | thing m => m

end ModuleName

namespace ModuleNames

/-- **Run** the items of a module; a broken item ends it with what it says. -/
def run : ModuleNames → List ModuleItem → Except Text ModuleNames
  | names, [] => .ok names
  | names, .function f :: rest => run (Entries.put f.name (.step f) names) rest
  | names, .type name :: rest => run (Entries.put name (.thing (.ofType name (.other name))) names) rest
  | names, .value name :: rest => run (Entries.put name (.thing (.ofValue name)) names) rest
  | names, .alias name of :: rest =>
    match names.lookup of <|> (TypeMeaning.known? of).map ModuleName.thing with
    | some item => run (Entries.put name item names) rest
    | none => .error ("name '" ++ of ++ "' is not defined")
  | _, .broken raised :: _ => .error raised.text

/-- What the names in a module's annotations **stand for**: its own come first. -/
def scope (names : ModuleNames) : TypeScope := fun name =>
  (names.lookup name).map ModuleName.meaning <|> TypeMeaning.known? name

end ModuleNames

namespace Registry

/-- Register what a **name stands for**, if that is a function that announces a step or is decorated. -/
def registerName (scope : TypeScope) (r : Registry) :
    Text × ModuleName → Except Failure (List Definition) × Registry
  | (_, .thing _) => (.ok [], r)
  | (name, .step f) =>
    if announcesStep name || f.decorator.isSome then
      match r.registerFunction scope f none name with
      | .ok (d, r) => (.ok [d], r)
      | .error failure => (.error failure, r)
    else (.ok [], r)

/-- Register the step functions **among names**, in order. -/
def registerNames (scope : TypeScope) (r : Registry) (names : ModuleNames) :
    Except Failure (List Definition) × Registry :=
  r.loadEach (registerName scope) names

end Registry

/-! ### Classes -/

/-- An **attribute of a class**: a method, which may be bound to the class, or anything else. -/
structure ClassItem where
  function : FunctionItem
  isMethod : Bool
  deriving Repr

/-- The names that objects of a class have, **base classes first**; a later class gives a name its
meaning, an underscore in front hides a name. -/
def classNames (lineage : List (List ClassItem)) : ModuleNames :=
  lineage.flatten.foldl (fun names item =>
    let name := item.function.name
    if name.head? = some '_' then names
    else Entries.put name (if item.isMethod then .step item.function else .thing (.ofValue name)) names) []

/-- Register the **methods** of an object, given the classes of its lineage, base classes first. -/
def Registry.registerObject (r : Registry) (lineage : List (List ClassItem)) :
    Except Failure (List Definition) × Registry :=
  r.registerNames TypeMeaning.known? (classNames lineage)

end PlainSpec
