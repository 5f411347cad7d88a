import PlainSpec.Text.Ranges

/-!
# Blanks and lines

White space is the separator of everything here: of the words of a phrase, of a line and its margins.
Texts are cut into lines at every line break that any system writes.

## Main results

* `length_trim_le`: trimming never lengthens a text.
-/

namespace PlainSpec

/-- The **white space** characters. -/
def blankRanges : List (Nat × Nat) :=
  [(0x09, 0x0D), (0x1C, 0x20), (0x85, 0x85), (0xA0, 0xA0), (0x1680, 0x1680), (0x2000, 0x200A),
   (0x2028, 0x2029), (0x202F, 0x202F), (0x205F, 0x205F), (0x3000, 0x3000)]

/-- Whether a character is **white space**. -/
def isBlank (c : Char) : Bool := inRanges blankRanges c.toNat

/-- Whether a character **ends a line**. -/
def isLineBreak (c : Char) : Bool :=
  inRanges [(0x0A, 0x0D), (0x1C, 0x1E), (0x85, 0x85), (0x2028, 0x2029)] c.toNat

namespace Text

/-- Drop the white space in front. -/
def trimLeft (t : Text) : Text := t.dropWhile isBlank

/-- Drop the white space at the end. -/
def trimRight (t : Text) : Text := dropEndWhile isBlank t

/-- Drop the white space on **both sides**. -/
def trim (t : Text) : Text := trimRight (trimLeft t)

theorem length_trim_le (t : Text) : (trim t).length ≤ t.length := by
  have h₁ : (trimLeft t).length ≤ t.length := (List.dropWhile_suffix isBlank).length_le
  have h₂ : (trim t).length ≤ (trimLeft t).length := by
    have := (List.dropWhile_suffix (l := (trimLeft t).reverse) isBlank).length_le
    simpa [trim, trimRight, dropEndWhile] using this
  omega

/-- What stands **before a remark**, which a hash behind white space begins. -/
def beforeRemark : Text → Text
  | [] => []
  | c :: rest => if isBlank c && rest.head? == some '#' then [] else c :: beforeRemark rest

/-- The **words** of a text: its maximal runs of characters other than white space. -/
def words : Text → List Text
  | [] => []
  | c :: rest =>
    if isBlank c then words rest
    else match rest with
      | [] => [[c]]
      | d :: _ => if isBlank d then [c] :: words rest else consHead c (words rest)

/-- The **lines** of a text, without their line breaks; a carriage return and the line feed after it are
one break, and a break at the end starts no further line. -/
def lines : Text → List Text
  | [] => []
  | '\r' :: '\n' :: rest => [] :: lines rest
  | c :: rest => if isLineBreak c then [] :: lines rest else consHead c (lines rest)

end Text

end PlainSpec
