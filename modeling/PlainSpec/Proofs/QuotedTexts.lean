import Mathlib.Algebra.Group.Nat.Defs
import Mathlib.Tactic.SplitIfs
import PlainSpec.Text.Quoted

/-!
# Quoted texts are read back

A quoted text stands in generated source as a literal. This module reads such a literal as the language of the
source does: the text ends at the first quotation mark that no backslash escapes, an escape stands for one
character, and a line does not end within it. What was quoted is read back from its quoted form.

## Main results

* `hexNumber?_hex`: a number is read back from its hexadecimal digits, however many zeros are in front.
* `unquoted?_quoted`: a text is read back from its quoted form.
-/

namespace PlainSpec

namespace Text

/-! ### Reading literals -/

/-- The value of a **hexadecimal digit**. -/
def hexValue? (c : Char) : Option Nat := ("0123456789abcdef" : Text).findIdx? (· == c.toLower)

/-- The number that **hexadecimal digits** stand for. -/
def hexNumber? (digits : Text) : Option Nat :=
  digits.foldlM (fun n c => (hexValue? c).map (16 * n + ·)) 0

/-- The character whose code point is given by **so many hexadecimal digits** in front of a text. -/
def codePoint? (width : Nat) (t : Text) : Option Char :=
  if t.length < width then none
  else (hexNumber? (t.take width)).bind fun n => if n.isValidChar then some (Char.ofNat n) else none

/-- The character that an **escape** stands for, without its backslash, and the number of characters that it
takes. -/
def escaped? : Text → Option (Char × Nat)
  | [] => none
  | 't' :: _ => some ('\t', 1)
  | 'n' :: _ => some ('\n', 1)
  | 'r' :: _ => some ('\r', 1)
  | 'x' :: rest => (codePoint? 2 rest).map (·, 3)
  | 'u' :: rest => (codePoint? 4 rest).map (·, 5)
  | 'U' :: rest => (codePoint? 8 rest).map (·, 9)
  | c :: _ => if c = '\\' ∨ c = '\'' ∨ c = '"' then some (c, 1) else none

/-- The text **up to the closing quotation mark**, which is the end; so many characters still belong to the
escape before. -/
def readLiteral? (mark : Char) : Nat → Text → Option Text
  | _, [] => none
  | skip + 1, _ :: rest => readLiteral? mark skip rest
  | 0, c :: rest =>
    if c = mark then if rest.isEmpty then some [] else none
    else if c = '\\' then
      (escaped? rest).bind fun (d, size) => (readLiteral? mark size rest).map (d :: ·)
    else if c = '\n' ∨ c = '\r' then none
    else (readLiteral? mark 0 rest).map (c :: ·)

/-- The text that a **literal** stands for. -/
def unquoted? : Text → Option Text
  | [] => none
  | mark :: rest => if mark = '\'' ∨ mark = '"' then readLiteral? mark 0 rest else none

/-! ### Hexadecimal digits -/

/-- A digit has **its value**. -/
theorem hexValue?_digitChar {d : Nat} (h : d < 16) : hexValue? (Nat.digitChar d) = some d := by
  have hall : ∀ d < 16, hexValue? (Nat.digitChar d) = some d := by decide
  exact hall d h

/-- A number is read back **from its digits**. -/
theorem hexNumber?_toDigits (n : Nat) : hexNumber? (Nat.toDigits 16 n) = some n := by
  induction n using Nat.base_induction 16 (by decide) with
  | single m hm => simp [hexNumber?, Nat.toDigits_of_lt_base hm, hexValue?_digitChar hm]
  | digit m k hk hm ih =>
      rw [hexNumber?] at ih
      rw [hexNumber?, ← Nat.toDigits_append_toDigits (by decide) hm hk, List.foldlM_append, ih]
      simp [Nat.toDigits_of_lt_base hk, hexValue?_digitChar hk]

/-- **Zeros in front** do not count. -/
theorem hexNumber?_zeros (count : Nat) (digits : Text) :
    hexNumber? (List.replicate count '0' ++ digits) = hexNumber? digits := by
  induction count with
  | zero => rfl
  | succ count ih => exact ih

/-- A number is read back from its digits, **filled up with zeros**. -/
theorem hexNumber?_hex (width n : Nat) : hexNumber? (hex width n) = some n :=
  (hexNumber?_zeros _ _).trans (hexNumber?_toDigits n)

/-- Filled up, a number that is not too large has **so many digits**. -/
theorem length_hex {width n : Nat} (hwidth : 0 < width) (h : n < 16 ^ width) :
    (hex width n).length = width := by
  have hlength : (Nat.toDigits 16 n).length ≤ width :=
    (Nat.length_toDigits_le_iff (by decide) hwidth).mpr h
  simp only [hex, List.length_append, List.length_replicate]
  omega

/-- A character is read back from **its code point**. -/
theorem codePoint?_hex {width : Nat} {c : Char} (hwidth : 0 < width) (h : c.toNat < 16 ^ width)
    (rest : Text) : codePoint? width (hex width c.toNat ++ rest) = some c := by
  have hlength := length_hex hwidth h
  rw [codePoint?, if_neg (by simp [hlength]), List.take_left' hlength, hexNumber?_hex, Option.bind_some,
    if_pos (show c.toNat.isValidChar from c.valid), Char.ofNat_toNat]

/-! ### Quoted characters -/

section

variable {mark : Char}

/-- What belongs to an escape is **skipped**. -/
theorem readLiteral?_append (t rest : Text) :
    readLiteral? mark t.length (t ++ rest) = readLiteral? mark 0 rest := by
  induction t with
  | nil => rfl
  | cons c t ih =>
      rw [List.length_cons, List.cons_append, readLiteral?]
      exact ih

/-- An **escape** stands for its character. -/
theorem readLiteral?_escape (hmark : mark ≠ '\\') {t rest : Text} {c : Char}
    (h : escaped? (t ++ rest) = some (c, t.length)) :
    readLiteral? mark 0 ('\\' :: (t ++ rest)) = (readLiteral? mark 0 rest).map (c :: ·) := by
  rw [readLiteral?, if_neg hmark.symm, if_pos rfl, h, Option.bind_some]
  exact congrArg (Option.map (c :: ·)) (readLiteral?_append t rest)

/-- A character that is no mark, no backslash and no line break **stands for itself**. -/
theorem readLiteral?_self {c : Char} (hc : c ≠ mark ∧ c ≠ '\\' ∧ c ≠ '\n' ∧ c ≠ '\r') (rest : Text) :
    readLiteral? mark 0 (c :: rest) = (readLiteral? mark 0 rest).map (c :: ·) := by
  obtain ⟨hmark, hslash, hfeed, hreturn⟩ := hc
  rw [readLiteral?, if_neg hmark, if_neg hslash, if_neg (not_or.mpr ⟨hfeed, hreturn⟩)]

/-- **A quoted character** is read back, whatever follows it. -/
theorem readLiteral?_quoteChar (hmark : mark = '\'' ∨ mark = '"') (c : Char) (rest : Text) :
    readLiteral? mark 0 (quoteChar mark c ++ rest) = (readLiteral? mark 0 rest).map (c :: ·) := by
  have hslash : mark ≠ '\\' := by
    rcases hmark with rfl | rfl <;> decide
  have hhex : ∀ {kind : Char} {width : Nat}, 0 < width → c.toNat < 16 ^ width →
      (∀ rest, escaped? (kind :: rest) = (codePoint? width rest).map (·, width + 1)) →
      readLiteral? mark 0 ('\\' :: (kind :: hex width c.toNat ++ rest)) =
        (readLiteral? mark 0 rest).map (c :: ·) := by
    intro kind width hwidth hc hkind
    refine readLiteral?_escape hslash ?_
    rw [List.cons_append, hkind, codePoint?_hex hwidth hc, List.length_cons, length_hex hwidth hc]
    rfl
  rw [quoteChar]
  split_ifs with hescaped htab hfeed hreturn hshown hsmall hmiddle
  · refine readLiteral?_escape hslash (t := [c]) ?_
    simp only [Bool.or_eq_true, decide_eq_true_eq] at hescaped
    rcases hescaped with rfl | rfl
    · rcases hmark with rfl | rfl <;> rfl
    · rfl
  · exact readLiteral?_escape hslash (t := ['t']) (htab ▸ rfl)
  · exact readLiteral?_escape hslash (t := ['n']) (hfeed ▸ rfl)
  · exact readLiteral?_escape hslash (t := ['r']) (hreturn ▸ rfl)
  · simp only [Bool.or_eq_true, decide_eq_true_eq, not_or] at hescaped
    exact readLiteral?_self ⟨hescaped.1, hescaped.2, hfeed, hreturn⟩ rest
  · exact hhex (by decide) hsmall fun _ => rfl
  · exact hhex (by decide) hmiddle fun _ => rfl
  · have hc : c.toNat < 0x110000 := by
      have := c.valid
      simp only [UInt32.isValidChar, Nat.isValidChar] at this
      simp only [Char.toNat]
      omega
    exact hhex (by decide) (Nat.lt_of_lt_of_le hc (by decide)) fun _ => rfl

/-- Quoted characters are read back **up to the mark** at the end. -/
theorem readLiteral?_quoted (hmark : mark = '\'' ∨ mark = '"') (t : Text) :
    readLiteral? mark 0 (t.flatMap (quoteChar mark) ++ [mark]) = some t := by
  induction t with
  | nil => simp [readLiteral?]
  | cons c t ih =>
      rw [List.flatMap_cons, List.append_assoc, readLiteral?_quoteChar hmark, ih]
      rfl

end

/-- **A text is read back** from its quoted form. -/
theorem unquoted?_quoted (t : Text) : unquoted? (quoted t) = some t := by
  have hmark : quotationMark t = '\'' ∨ quotationMark t = '"' := by
    unfold quotationMark
    split
    · exact .inr rfl
    · exact .inl rfl
  exact (if_pos hmark).trans (readLiteral?_quoted hmark t)

end Text

end PlainSpec
