import PlainSpec.Number.Numeral
import PlainSpec.Text.Quoted

/-!
# Reading integers

An integer is a sign and decimal digits of any script, with white space around and single underscores
between digits. The number of digits is limited.
-/

namespace PlainSpec

/-- The most **digits** that an integer may have. -/
def integerDigitLimit : Nat := 4300

/-- Why a text is not an integer. -/
inductive IntegerFault
  | malformed
  | tooLong (digits : Nat)
  deriving DecidableEq, Repr

/-- What is said of a text that is **no integer** to a base; only so much of the text is shown. -/
def noIntegerMessage (base : Nat) (t : Text) : Text :=
  "invalid literal for int() with base " ++ Text.ofNat base ++ ": " ++ (Text.quoted t).take 200

/-- What is said of an integer with **too many digits**. -/
def tooLongMessage (digits : Nat) : Text :=
  "Exceeds the limit (" ++ Text.ofNat integerDigitLimit ++
    " digits) for integer string conversion: value has " ++ Text.ofNat digits ++
    " digits; use sys.set_int_max_str_digits() to increase the limit"

/-- Read an **integer**. The digits are counted, leading zeros included, before what follows them is
looked at. -/
def readInteger (t : Text) : Except IntegerFault Int :=
  let (negative, unsigned) := takeSign (t.dropWhile isNumberMargin)
  let numeral := unsigned.takeWhile fun c => isDecimalDigit c || c == '_'
  let digits := numeral.filterMap decimalDigit?
  if !underscoresSeparateDigits ' ' numeral then .error .malformed
  else if integerDigitLimit < digits.length then .error (.tooLong digits.length)
  else if digits.isEmpty then .error .malformed
  else if (unsigned.drop numeral.length).all isNumberMargin then
    let size : Int := numberOfDigits digits
    .ok (if negative then -size else size)
  else .error .malformed

end PlainSpec
