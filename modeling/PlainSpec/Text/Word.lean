import PlainSpec.Text.WordTable
import PlainSpec.Text.IdentifierTable

/-!
# Word characters and identifiers

Words are made of letters, digits and underscores. Identifiers are the names that a program may give to
its functions and parameters; the two notions differ beyond ASCII.
-/

namespace PlainSpec

/-- Whether a character is a letter, a digit or another **numeral** of any script. -/
def isAlphanumeric (c : Char) : Bool :=
  if c.toNat < 0x80 then c.isAlphanum else inRanges alphanumericRanges c.toNat

/-- Whether a character belongs to a **word**: it is alphanumeric or an underscore. -/
def isWordChar (c : Char) : Bool := isAlphanumeric c || c == '_'

/-- Whether a character may **start** an identifier. -/
def startsIdentifier (c : Char) : Bool :=
  if c.toNat < 0x80 then c.isAlpha || c == '_' else inRanges identifierStartRanges c.toNat

/-- Whether a character may **continue** an identifier. -/
def continuesIdentifier (c : Char) : Bool :=
  if c.toNat < 0x80 then c.isAlphanum || c == '_' else inRanges identifierContinueRanges c.toNat

/-- Whether a text is an **identifier**. -/
def isIdentifier : Text → Bool
  | [] => false
  | c :: rest => startsIdentifier c && rest.all continuesIdentifier

end PlainSpec
