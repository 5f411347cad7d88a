import PlainSpec.Number.Numeral
import PlainSpec.Text.Quoted

/-!
# Double precision

The double nearest to a decimal number, a tie going to the even neighbour, as its bits. The arithmetic is
on natural numbers throughout.
-/

namespace PlainSpec

/-- Divide and round to the **nearest** natural number, a tie to the even one. -/
def divNearest (n d : Nat) : Nat :=
  let q := n / d
  let twice := 2 * (n % d)
  if twice < d then q
  else if d < twice then q + 1
  else q + q % 2

namespace Binary64

/-- The bits of infinity. -/
def infinity : Nat := 0x7FF0000000000000

/-- The bits of the value that is **not a number**. -/
def notANumber : UInt64 := 0x7FF8000000000000

/-- Set the sign bit of a number. -/
def signed (negative : Bool) (bits : Nat) : UInt64 :=
  UInt64.ofNat (if negative then bits + 0x8000000000000000 else bits)

/-- The bits of the double nearest to the **quotient** `n / d` of positive numbers. The unit of the last
place is found first, never below that of the smallest doubles; adding the significand to the exponent
field carries a significand that was rounded up into the next exponent. -/
def ofQuotient (n d : Nat) : Nat :=
  let lead : Int := (Nat.log2 n : Int) - Nat.log2 d
  let scaled (unit : Int) : Nat × Nat :=
    if 0 ≤ unit then (n, d <<< unit.toNat) else (n <<< (-unit).toNat, d)
  let unit := max (lead - 53) (-1074)
  let unit := if 0x20000000000000 ≤ (scaled unit).1 / (scaled unit).2 then unit + 1 else unit
  let significand := divNearest (scaled unit).1 (scaled unit).2
  min infinity (((unit + 1074).toNat <<< 52) + significand)

/-- The bits of the double nearest to a **numeral**. Numbers beyond the range on either side are
recognised by their size alone. -/
def ofNumeral (numeral : Numeral) : Nat :=
  let digits := numeral.digits.dropWhile (· == 0)
  let size : Int := digits.length + numeral.exponent
  if digits.isEmpty || size < -330 then 0
  else if 310 < size then infinity
  else
    let coefficient := numberOfDigits digits
    if 0 ≤ numeral.exponent then ofQuotient (coefficient * Nat.pow 10 numeral.exponent.toNat) 1
    else ofQuotient coefficient (Nat.pow 10 (-numeral.exponent).toNat)

/-- What is said of a text that is **no double**. -/
def noNumberMessage (t : Text) : Text := "could not convert string to float: " ++ Text.quoted t

/-- Read a **double**, as its bits: a numeral, an infinity or a value that is not a number. -/
def read? (t : Text) : Option UInt64 :=
  let t := Text.dropEndWhile isNumberMargin (t.dropWhile isNumberMargin)
  if !underscoresSeparateDigits ' ' t then none
  else
    let (negative, unsigned) := takeSign (t.filter (· != '_'))
    if namesInfinity unsigned then some (signed negative infinity)
    else if unsigned.map Char.toLower == "nan" then some notANumber
    else (readNumeral? unsigned).map fun numeral => signed negative (ofNumeral numeral)

end Binary64

end PlainSpec
