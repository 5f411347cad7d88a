import PlainSpec.Definition.Registry

/-!
# Blocks as arguments

A parameter that takes the block of a step says in which shape it wants the block: as it is, or as a
record or a list of records. A form makes a record and a grid makes records; no other block does.

## Main results

* `Parameter.adapt_none`: without a block the argument is nothing.
-/

namespace PlainSpec

namespace Parameter

/-- The complaint that a parameter **expects** another shape of block. -/
def expects (p : Parameter) (wanted : Text) (block : Block) : Text :=
  "Parameter '" ++ p.name ++ "' expects a " ++ wanted ++ ", the step has a " ++ block.shape

/-- The complaint about a type that **no block can be compared with**. -/
def incomparable : ParamType → Option Text
  | .union _ => some "typing.Union cannot be used with isinstance()"
  | .unresolved _ => some "isinstance() arg 2 must be a type, a tuple of types, or a union"
  | _ => none

/-- A block **as a parameter wants it**. -/
def adaptBlock (p : Parameter) (type : ParamType) (block : Block) : Except Text Value :=
  match type.unwrapOptional.1, block with
  | .record, .form form | .recordOf _ _, .form form => .ok (.record form.toRecord)
  | .record, _ | .recordOf _ _, _ => .error (p.expects "form" block)
  | .records, .grid grid | .listOf _, .grid grid => .ok (.records grid.toRecords)
  | .records, _ | .listOf _, _ => .error (p.expects "grid" block)
  | .form, .form _ | .grid, .grid _ | .block, _ => .ok (.block block)
  | other, _ => .error ((incomparable other).getD (p.expects other.name block))

/-- The **argument** for a parameter that takes the block of a step, or why the block does not do. -/
def adapt (p : Parameter) (block : Option Block) : Except Text Value :=
  match block, p.type with
  | none, _ => .ok .nothing
  | some block, none => .ok (.block block)
  | some block, some type => p.adaptBlock type block

theorem adapt_none (p : Parameter) : p.adapt none = .ok .nothing := rfl

end Parameter

end PlainSpec
