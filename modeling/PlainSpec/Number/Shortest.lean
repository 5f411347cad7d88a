import PlainSpec.Number.Binary64

/-!
# Shortest notation of doubles

A double is written with the fewest decimal digits from which it is read back, and of the numbers with so
many digits by the one that is nearest to it. Numbers of ordinary size are written in plain notation, with
at least one place; very large and very small ones in scientific notation.
-/

namespace PlainSpec

namespace Binary64

/-- A finite double **taken apart**: its sign, and a significand counted by a power of two. -/
structure Parts where
  negative : Bool
  significand : Nat
  exponent : Int
  deriving DecidableEq, Repr

/-- Take a double **apart**, unless it is an infinity or not a number. -/
def parts? (bits : UInt64) : Option Parts :=
  let n := bits.toNat
  let field := (n >>> 52) % 2048
  let fraction := n % 0x10000000000000
  let negative := 0x8000000000000000 ≤ n
  if field = 2047 then none
  else if field = 0 then some ⟨negative, fraction, -1074⟩
  else some ⟨negative, fraction + 0x10000000000000, (field : Int) - 1075⟩

/-- Whether a double is a **zero** of either sign. -/
def isZero (bits : UInt64) : Bool := bits.toNat % 0x8000000000000000 == 0

/-- Whether a double is **not a number**. -/
def isNotANumber (bits : UInt64) : Bool := infinity < bits.toNat % 0x8000000000000000

/-- The **integer** that a double equals, if it does. -/
def integer? (bits : UInt64) : Option Int :=
  match parts? bits with
  | none => none
  | some ⟨negative, significand, exponent⟩ =>
    let signed (n : Nat) : Int := if negative then -(n : Int) else n
    if 0 ≤ exponent then some (signed (significand <<< exponent.toNat))
    else
      let unit := 1 <<< (-exponent).toNat
      if significand % unit = 0 then some (signed (significand / unit)) else none

/-- The power of ten by which the **leading digit** of a positive quotient counts. -/
def leadingPower (n d : Nat) : Int :=
  if d ≤ n then (Nat.toDigits 10 (n / d)).length - 1
  else -((Nat.toDigits 10 ((d - 1) / n)).length : Int)

/-- A quotient counted in units of a **power of ten**. -/
def inUnits (power : Int) (n d : Nat) : Nat × Nat :=
  if 0 ≤ power then (n, d * Nat.pow 10 power.toNat) else (n * Nat.pow 10 (-power).toNat, d)

/-- The bits of the positive double that a **count** of a power of ten is read as. -/
def ofCount (count : Nat) (power : Int) : Nat :=
  if 0 ≤ power then ofQuotient (count * Nat.pow 10 power.toNat) 1
  else ofQuotient count (Nat.pow 10 (-power).toNat)

/-- Of the two counts of a power of ten around a quotient, the **nearer one** that is read as the given
bits; of two that are equally near, the even one. -/
def nearestCount? (bits n d : Nat) (power : Int) : Option Nat :=
  let (n, d) := inUnits power n d
  let low := n / d
  let twice := 2 * (n % d)
  let lowFirst := twice < d || (twice == d && low % 2 == 0)
  (if lowFirst then [low, low + 1] else [low + 1, low]).find? fun count =>
    count != 0 && ofCount count power == bits

/-- The digits of a positive finite double, and how many of them stand **before the point**. -/
def shortestDigits (bits : Nat) (significand : Nat) (exponent : Int) : Text × Int :=
  let (n, d) :=
    if 0 ≤ exponent then (significand <<< exponent.toNat, 1) else (significand, 1 <<< (-exponent).toNat)
  let lead := leadingPower n d
  let found := (List.range 17).findSome? fun (more : Nat) =>
    let power := lead - more
    (nearestCount? bits n d power).map fun count => (count, power)
  let (count, power) := found.getD (0, 0)
  let digits := Text.ofNat count
  (Text.dropEndWhile (· == '0') digits, digits.length + power)

/-- Digits with a **point** among or beside them: in plain notation when the point stands at most sixteen
digits to the right and three zeros to the left of the first digit. -/
def withPoint (digits : Text) (point : Int) : Text :=
  if -4 < point && point ≤ 16 then
    if point ≤ 0 then "0." ++ List.replicate (-point).toNat '0' ++ digits
    else
      let whole := point.toNat
      if digits.length ≤ whole then digits ++ List.replicate (whole - digits.length) '0' ++ ".0"
      else digits.take whole ++ '.' :: digits.drop whole
  else
    let power := point - 1
    let size := Text.ofNat power.natAbs
    digits.take 1 ++ (if digits.length = 1 then [] else '.' :: digits.drop 1) ++
      (if power < 0 then "e-" else "e+") ++ List.replicate (2 - size.length) '0' ++ size

/-- Write a **double** in its shortest notation. -/
def toText (bits : UInt64) : Text :=
  match parts? bits with
  | none =>
    if isNotANumber bits then "nan" else if 0x8000000000000000 ≤ bits.toNat then "-inf" else "inf"
  | some ⟨negative, significand, exponent⟩ =>
    (if negative then ['-'] else []) ++
      if significand = 0 then "0.0".toList
      else
        let (digits, point) := shortestDigits (bits.toNat % 0x8000000000000000) significand exponent
        withPoint digits point

end Binary64

end PlainSpec
