import PlainSpec.Text.DigitTable

/-!
# Digits

Numbers may be written with the decimal digits of any script.
-/

namespace PlainSpec

/-- The value of a **decimal digit** of any script. -/
def decimalDigit? (c : Char) : Option Nat :=
  let n := c.toNat
  if n < 0x80 then if 48 ≤ n && n ≤ 57 then some (n - 48) else none
  else (rangeStart? decimalDigitRanges n).map fun first => (n - first) % 10

/-- Whether a character is a decimal digit of any script. -/
def isDecimalDigit (c : Char) : Bool := (decimalDigit? c).isSome

/-- Whether a character stands for **one digit**, be it raised or circled. -/
def isDigit (c : Char) : Bool :=
  if c.toNat < 0x80 then c.isDigit else inRanges digitRanges c.toNat

/-- The number that a list of decimal digits denotes, the **most significant digit first**. -/
def numberOfDigits (digits : List Nat) : Nat := digits.foldl (fun n d => 10 * n + d) 0

/-- Whether a character is a **hexadecimal** digit of ASCII. -/
def isHexDigit (c : Char) : Bool := c.isDigit || (97 ≤ c.toLower.toNat && c.toLower.toNat ≤ 102)

/-- The value of an ASCII letter or digit **as a digit**. -/
def digitValue (c : Char) : Nat := if c.isDigit then c.toNat - 48 else c.toLower.toNat - 87

end PlainSpec
