import PlainSpec.Number.Numeral

/-!
# Decimal numbers

Decimal numbers keep the digits they were written with, so that 1.50 and 1.5 differ. They are read
exactly or not at all, and written in the shorter of plain and scientific notation.
-/

namespace PlainSpec

/-- A **decimal number**: digits counted by a power of ten, an infinity, or a value that is not a number
with the digits it carries. -/
inductive Decimal
  | finite (negative : Bool) (coefficient : Nat) (exponent : Int)
  | infinite (negative : Bool)
  | notANumber (negative signaling : Bool) (payload : Nat)
  deriving DecidableEq, Repr

namespace Decimal

/-- The largest exponent that the **leading digit** may have. It takes a written exponent to exceed the limits:
no text is so long that its digits alone would do. -/
def largestExponent : Int := 999999999999999999

/-- The smallest exponent that the **last digit** may have. -/
def smallestExponent : Int := -1999999999999999997

/-- The value of a decimal that is not a number, from what follows its sign. -/
def readNotANumber? (negative : Bool) (t : Text) : Option Decimal :=
  let low := t.map Char.toLower
  let (signaling, rest) :=
    match Text.afterPrefix? "nan" low, Text.afterPrefix? "snan" low with
    | some rest, _ => (false, some rest)
    | none, rest => (true, rest)
  match rest.map takeDigits with
  | some (digits, []) => some (.notANumber negative signaling (numberOfDigits digits))
  | _ => none

/-- Read a **decimal number** exactly; underscores are ignored wherever they stand. -/
def read? (t : Text) : Option Decimal :=
  let (negative, unsigned) := takeSign ((Text.trim t).filter (· != '_'))
  if namesInfinity unsigned then some (.infinite negative)
  else match readNumeral? unsigned with
    | none => readNotANumber? negative unsigned
    | some numeral =>
      let coefficient := numberOfDigits numeral.digits
      let lead := numeral.exponent + (Nat.toDigits 10 coefficient).length - 1
      if !unsigned.any isExponentMark ||
          (smallestExponent ≤ numeral.exponent && lead ≤ largestExponent) then
        some (.finite negative coefficient numeral.exponent)
      else none

/-- A minus sign for negative numbers. -/
def signText (negative : Bool) : Text := if negative then ['-'] else []

/-- Write a **decimal number**: in plain notation when no digit stands left of it by more than five
zeros and none is missing on its right, in scientific notation otherwise. -/
def toText : Decimal → Text
  | infinite negative => signText negative ++ "Infinity"
  | notANumber negative signaling payload =>
    signText negative ++ (if signaling then "sNaN" else "NaN") ++
      (if payload = 0 then [] else Text.ofNat payload)
  | finite negative coefficient exponent =>
    let digits := Text.ofNat coefficient
    let lead := exponent + digits.length - 1
    signText negative ++
      if exponent ≤ 0 && -6 ≤ lead then
        let places := (-exponent).toNat
        if places = 0 then digits
        else
          let padded := List.replicate (places + 1 - digits.length) '0' ++ digits
          padded.take (padded.length - places) ++ "." ++ padded.drop (padded.length - places)
      else
        digits.take 1 ++ (if digits.length = 1 then [] else '.' :: digits.drop 1) ++
          "E" ++ (if lead < 0 then [] else ['+']) ++ Text.ofInt lead

end Decimal

end PlainSpec
