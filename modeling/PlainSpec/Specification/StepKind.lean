import PlainSpec.Text.Basic

/-!
# Kinds of steps

A scenario sets up a context, performs actions and states outcomes. A step whose kind nothing tells is
unclear.
-/

namespace PlainSpec

/-- What a step is **for**. -/
inductive StepKind
  | context
  | action
  | outcome
  | unclear
  deriving DecidableEq, Repr, Inhabited

namespace StepKind

/-- The word by which a kind is **written**. -/
def word : StepKind → Text
  | context => "given"
  | action => "when"
  | outcome => "then"
  | unclear => "unknown"

/-- The kinds that steps of a specification have, in their **customary order**. -/
def all : List StepKind := [context, action, outcome]

end StepKind

end PlainSpec
