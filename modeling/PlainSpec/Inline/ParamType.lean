import PlainSpec.Data.Basic
import PlainSpec.Phrase

/-!
# Types of parameters

A parameter of a step function takes a value that stands in the step's line, or the block under it. An
optional type also takes nothing.
-/

namespace PlainSpec

/-- An **enumeration**: its members in order. A member may be another name of an earlier one. -/
structure Enumeration where
  name : Text
  /-- The name of each member, and the name of the member that it **stands for**. -/
  members : List (Text × Text)
  /-- The values that are **texts**, each with the name of a member that has it. -/
  texts : List (Text × Text)
  deriving DecidableEq, Repr

/-- The enumeration of named values; an equal value makes a name **another name** of the first. -/
def Enumeration.ofValues (name : Text) (values : List (Text × Datum)) : Enumeration :=
  let first (member : Text) (value : Datum) : Text :=
    ((values.find? fun other => other.2.same value).map Prod.fst).getD member
  { name
    members := values.map fun (member, value) => (member, first member value)
    texts := values.filterMap fun (member, value) =>
      match value with
      | .text t => some (t, first member value)
      | _ => none }

/-- The **type** of a parameter. Types that are joined by bars are shown as they are written. -/
inductive ParamType
  | int
  | real
  | decimal
  | bool
  | text
  | date
  | enum (enumeration : Enumeration)
  | form
  | grid
  | block
  | record
  | records
  | recordOf (key value : ParamType)
  | listOf (item : ParamType)
  | nothing
  | other (name : Text)
  | unresolved (name : Text)
  | union (members : List ParamType)
  | barred (members : List ParamType) (written : Text)
  deriving Repr, Inhabited

namespace ParamType

mutual

/-- Whether two types are the **same**. -/
def beq : ParamType → ParamType → Bool
  | int, int | real, real | decimal, decimal | bool, bool | text, text | date, date => true
  | form, form | grid, grid | block, block | record, record | records, records => true
  | nothing, nothing => true
  | recordOf k v, recordOf k' v' => beq k k' && beq v v'
  | listOf a, listOf b => beq a b
  | enum a, enum b => a == b
  | other a, other b => a == b
  | unresolved a, unresolved b => a == b
  | union as, union bs | barred as _, barred bs _ => beqAll as bs
  | _, _ => false

/-- Whether two lists of types are the same, **one by one**. -/
def beqAll : List ParamType → List ParamType → Bool
  | [], [] => true
  | a :: as, b :: bs => beq a b && beqAll as bs
  | _, _ => false

end

instance : BEq ParamType := ⟨beq⟩

/-- The members of a union **laid flat**. -/
def flatten : ParamType → List ParamType
  | union members | barred members _ => members
  | t => [t]

/-- The **union** of types: nested unions are laid flat, a type counts once, and a union of one type is
that type. -/
def unionOf (types : List ParamType) : ParamType :=
  match (types.flatMap flatten).foldl (fun seen t => if seen.contains t then seen else seen ++ [t]) [] with
  | [t] => t
  | members => union members

/-- The type inside an **optional** one, and whether it was optional. -/
def unwrapOptional : ParamType → ParamType × Bool
  | union [t, nothing] | barred [t, nothing] _ => (t, true)
  | union [nothing, t] | barred [nothing, t] _ => (t, true)
  | t => (t, false)

/-- The **name** of a type in messages. -/
def name : ParamType → Text
  | int => "int"
  | real => "float"
  | decimal => "Decimal"
  | bool => "bool"
  | text => "str"
  | date => "date"
  | enum enumeration => enumeration.name
  | form => "Form"
  | grid => "Grid"
  | block => "Block"
  | record => "dict"
  | records => "list"
  | recordOf _ _ => "Dict"
  | listOf _ => "List"
  | nothing => "NoneType"
  | other name => name
  | unresolved name => Text.quoted name
  | union [_, nothing] | union [nothing, _] => "Optional"
  | union _ => "Union"
  | barred _ written => written

/-- Whether a type takes the **block** of a step. -/
def takesBlock (t : ParamType) : Bool :=
  match t.unwrapOptional.1 with
  | form | grid | block | record | records | recordOf _ _ | listOf _ => true
  | _ => false

end ParamType

/-- The names of parameters that take the **block** of a step when they have no type. -/
def blockParameterNames : List Text := ["block", "form", "grid", "table"]

/-- A **parameter** of a step function. -/
structure Parameter where
  name : Text
  type : Option ParamType
  hasDefault : Bool
  deriving Repr, Inhabited

/-- Whether a parameter takes the **block** of a step rather than a value in its line. -/
def Parameter.isBlock (p : Parameter) : Bool :=
  match p.type with
  | none => blockParameterNames.contains p.name
  | some t => t.takesBlock

/-- The name of a type that may be **missing**. -/
def typeName : Option ParamType → Text
  | some t => t.name
  | none => "None"

end PlainSpec
