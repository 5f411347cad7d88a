import PlainSpec.Text.Blank
import PlainSpec.Text.Digit

/-!
# Numerals

What the readers of integers, of binary fractions and of decimal numbers share: the margins of a number,
its sign, its underscores, and numerals in scientific notation.
-/

namespace PlainSpec

/-- The white space that may stand **around a number**; the separators U+001C to U+001F do not count. -/
def isNumberMargin (c : Char) : Bool :=
  if c.toNat < 0x80 then c == ' ' || (9 ≤ c.toNat && c.toNat ≤ 13) else isBlank c

/-- A **sign** in front, `true` for minus, and what follows it. -/
def takeSign : Text → Bool × Text
  | '-' :: rest => (true, rest)
  | '+' :: rest => (false, rest)
  | t => (false, t)

/-- The **leading decimal digits**, by value, and what follows them. -/
def takeDigits : Text → List Nat × Text
  | [] => ([], [])
  | c :: rest =>
    match decimalDigit? c with
    | some d => (d :: (takeDigits rest).1, (takeDigits rest).2)
    | none => ([], c :: rest)

/-- Whether every underscore stands **between two digits**. -/
def underscoresSeparateDigits (previous : Char) : Text → Bool
  | [] => previous != '_'
  | c :: rest =>
    (if c == '_' then isDecimalDigit previous else previous != '_' || isDecimalDigit c) &&
      underscoresSeparateDigits c rest

/-- An unsigned number in **scientific notation**: its digits without the point, and the power of ten by
which they count. -/
structure Numeral where
  digits : List Nat
  exponent : Int

/-- The letters that an **exponent** begins with. -/
def isExponentMark (c : Char) : Bool := c == 'e' || c == 'E'

/-- The exponent part of a numeral, which is the rest of the text. -/
def readExponent? : Text → Option Int
  | [] => some 0
  | c :: rest =>
    if isExponentMark c then
      let (negative, unsigned) := takeSign rest
      match takeDigits unsigned with
      | ([], _) => none
      | (digits, []) =>
        let size : Int := numberOfDigits digits
        some (if negative then -size else size)
      | (_, _ :: _) => none
    else none

/-- Read an **unsigned numeral**: digits with at most one point among them, and an exponent. -/
def readNumeral? (t : Text) : Option Numeral :=
  let (whole, rest) := takeDigits t
  let (fraction, rest) :=
    match rest with
    | '.' :: more => takeDigits more
    | _ => ([], rest)
  if whole.isEmpty && fraction.isEmpty then none
  else (readExponent? rest).map fun e => ⟨whole ++ fraction, e - fraction.length⟩

/-- The names under which **infinity** may be written, in any case. -/
def namesInfinity (t : Text) : Bool :=
  let low := t.map Char.toLower
  low == "inf" || low == "infinity"

end PlainSpec
