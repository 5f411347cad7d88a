import PlainSpec.Text.Basic

/-!
# Control sequences

A control sequence tells a terminal to change colours or to move: an escape character and a bracket,
parameters, and one letter. Output that is kept does without them; other uses of the escape character stay.
-/

namespace PlainSpec

/-- The character that **begins** a control sequence. -/
def escapeCharacter : Char := '\x1b'

/-- Whether a character may stand among the **parameters** of a control sequence. -/
def isParameter (c : Char) : Bool := c.isDigit || c == ';' || c == '?'

namespace Text

/-- How many characters behind the escape character belong to a **control sequence**, if there is one. -/
def controlSize? : Text → Option Nat
  | '[' :: rest =>
    let count := (rest.takeWhile isParameter).length
    match rest.drop count with
    | c :: _ => if c.isAlpha then some (count + 2) else none
    | [] => none
  | _ => none

/-- A text without its control sequences, where `skip` characters belong to **the one before**. -/
def plainFrom : Nat → Text → Text
  | _, [] => []
  | skip + 1, _ :: rest => plainFrom skip rest
  | 0, c :: rest =>
    match if c = escapeCharacter then controlSize? rest else none with
    | some size => plainFrom size rest
    | none => c :: plainFrom 0 rest

/-- A text **without its control sequences**. -/
def plain (t : Text) : Text := plainFrom 0 t

end Text

end PlainSpec
