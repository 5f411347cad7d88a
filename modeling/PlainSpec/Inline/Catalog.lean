import PlainSpec.Inline.Kind

/-!
# Catalogs of inline kinds

A catalog is an ordered list of inline kinds; the first one that serves a type is used for it. An optional
type is served by whatever serves the type inside.
-/

namespace PlainSpec

/-- A **catalog** of inline kinds. -/
abbrev Catalog := List InlineKind

/-- Why a catalog gives **no value**: no kind serves the type, or the text does not convert. -/
inductive InlineFault
  | unsupported (type : Option ParamType)
  | conversion (fault : ConversionFault)
  deriving Repr

/-- The type inside an **optional** one, and whether it was optional. -/
def unwrapType (type : Option ParamType) : Option ParamType × Bool :=
  match type with
  | some t => (some t.unwrapOptional.1, t.unwrapOptional.2)
  | none => (none, false)

namespace Catalog

/-- The **customary** catalog. -/
def standard : Catalog := [.integer, .real, .truth, .enumeration, .date, .text]

/-- Add a kind **in front of** or behind the others. -/
def add (kind : InlineKind) (first : Bool) (catalog : Catalog) : Catalog :=
  if first then kind :: catalog else catalog ++ [kind]

/-- The **first kind** that serves a type. -/
def find? (catalog : Catalog) (type : Option ParamType) : Option InlineKind :=
  List.find? (·.handles (unwrapType type).1) catalog

/-- Whether some kind **serves a type**. -/
def handles (catalog : Catalog) (type : Option ParamType) : Bool := (catalog.find? type).isSome

/-- The **pattern** of the values of a type, with a capture of the given name. -/
def pattern (catalog : Catalog) (type : Option ParamType) (name : Text) : Except InlineFault Pattern :=
  let (inner, nullable) := unwrapType type
  match catalog.find? inner with
  | some kind => .ok (kind.pattern inner nullable name)
  | none => .error (.unsupported type)

/-- Convert a captured text to a **value** of a type; no text, or the word for nothing where the type is
optional, is nothing. -/
def convert (catalog : Catalog) (type : Option ParamType) (captured : Option Text) :
    Except InlineFault Value :=
  let (inner, nullable) := unwrapType type
  match catalog.find? inner, captured with
  | none, _ => .error (.unsupported type)
  | some _, none => .ok .nothing
  | some kind, some t =>
    if nullable && Text.lower t == nullWord then .ok .nothing
    else (kind.read inner t).mapError .conversion

end Catalog

end PlainSpec
