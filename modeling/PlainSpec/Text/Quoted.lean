import PlainSpec.Text.PrintableTable

/-!
# Quoted texts

A text in quotation marks, for messages and generated source: the quoted form is one line of printable
characters from which the text can be read back.
-/

namespace PlainSpec

/-- Whether a character is **shown as itself** in a quoted text. -/
def isPrintable (c : Char) : Bool :=
  if c.toNat < 0x80 then 32 ≤ c.toNat && c.toNat < 127 else inRanges printableRanges c.toNat

namespace Text

/-- A number in at least `width` hexadecimal digits. -/
def hex (width : Nat) (n : Nat) : Text :=
  let digits := Nat.toDigits 16 n
  List.replicate (width - digits.length) '0' ++ digits

/-- A character **inside quotation marks**: the mark and the backslash are escaped, and what cannot be
shown is written by its code point. -/
def quoteChar (mark c : Char) : Text :=
  if c = mark || c = '\\' then ['\\', c]
  else if c = '\t' then "\\t"
  else if c = '\n' then "\\n"
  else if c = '\r' then "\\r"
  else if isPrintable c then [c]
  else if c.toNat < 0x100 then "\\x" ++ hex 2 c.toNat
  else if c.toNat < 0x10000 then "\\u" ++ hex 4 c.toNat
  else "\\U" ++ hex 8 c.toNat

/-- The quotation mark for a text: a **single** one, unless the text has single but no double ones. -/
def quotationMark (t : Text) : Char :=
  if t.contains '\'' && !t.contains '"' then '"' else '\''

/-- The **quoted form** of a text. -/
def quoted (t : Text) : Text :=
  let mark := quotationMark t
  mark :: t.flatMap (quoteChar mark) ++ [mark]

end Text

end PlainSpec
