import PlainSpec.Text.Basic

/-!
# Faults of a specification

Everything that keeps a text from being a specification. A fault knows the line that it lies in.
-/

namespace PlainSpec

/-- A **structural fault** of a specification. -/
inductive SpecFault
  | secondFeature (name : Text)
  | leadingAnd (line : Text)
  | unrecognised (line : Text)
  | stepOutsideScenario (line : Text)
  | notGridRow (line : Text)
  | raggedRow (cells width : Nat) (line : Text)
  deriving DecidableEq, Repr

namespace SpecFault

/-- The **text at fault**. -/
def line : SpecFault → Text
  | secondFeature name => name
  | leadingAnd line | unrecognised line | stepOutsideScenario line | notGridRow line
  | raggedRow _ _ line => line

/-- What a fault **says**. -/
def message : SpecFault → Text
  | secondFeature name => "A document can only contain one feature, found a second: \"" ++ name ++ "\""
  | leadingAnd _ =>
    "\"And\" steps cannot appear before \"given\", \"when\", or \"then\" steps."
  | unrecognised line => "Unrecognized step: \"" ++ line ++ "\"."
  | stepOutsideScenario _ => "Steps cannot appear before a scenario is started."
  | notGridRow line => "Not a grid row: \"" ++ line ++ "\""
  | raggedRow cells width line =>
    "Grid row has " ++ Text.ofNat cells ++ " cells but the header has " ++ Text.ofNat width ++ ": \"" ++
      line ++ "\""

end SpecFault

end PlainSpec
