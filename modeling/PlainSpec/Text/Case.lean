import PlainSpec.Text.CaseTable

/-!
# Letter case

Three notions of case are in use. Comparing single characters without regard to case goes through
`foldCase`, which sends all variants of a letter to one of them. Whole texts are lowered and raised by
`Text.lower` and `Text.upper`, where one character may become several and a capital sigma is written
differently at the end of a word.

## Main results

* `sameLetter_refl`, `sameLetter_symm`, `sameLetter_trans`: being the same letter up to case is an
  equivalence.
-/

namespace PlainSpec

/-- The lower case of one character **as one character**. -/
def lowerChar (c : Char) : Char :=
  let n := c.toNat
  if n < 0x80 then c.toLower else Char.ofNat (shiftBy lowerRuns n)

/-- The letter that stands for **all variants** of a character, whatever their case. -/
def foldCase (c : Char) : Char :=
  let low := lowerChar c
  match letterVariants.lookup low.toNat with
  | some n => Char.ofNat n
  | none => low

/-- Whether two characters are the **same letter up to case**. -/
def sameLetter (a b : Char) : Bool := foldCase a == foldCase b

theorem sameLetter_iff {a b : Char} : sameLetter a b = true ↔ foldCase a = foldCase b := by
  simp [sameLetter]

theorem sameLetter_refl (a : Char) : sameLetter a a = true := by simp [sameLetter]

theorem sameLetter_symm {a b : Char} (h : sameLetter a b = true) : sameLetter b a = true := by
  rw [sameLetter_iff] at *
  exact h.symm

theorem sameLetter_trans {a b c : Char} (h₁ : sameLetter a b = true) (h₂ : sameLetter b c = true) :
    sameLetter a c = true := by
  rw [sameLetter_iff] at *
  exact h₁.trans h₂

/-- Whether a character can be the **last letter of a word** in front of a capital sigma. -/
def isCased (c : Char) : Bool := inRanges casedRanges c.toNat

/-- Whether a character is **skipped over** in looking for the neighbouring letter. -/
def isCaseIgnorable (c : Char) : Bool := inRanges caseIgnorableRanges c.toNat

namespace Text

/-- What follows a given beginning, if the text has it **up to case**. -/
def afterPrefixFold? : Text → Text → Option Text
  | [], t => some t
  | _ :: _, [] => none
  | p :: ps, c :: cs => if sameLetter p c then afterPrefixFold? ps cs else none

theorem isSuffix_of_afterPrefixFold? {p t rest : Text} (h : afterPrefixFold? p t = some rest) :
    rest <:+ t := by
  induction p generalizing t with
  | nil =>
    rw [afterPrefixFold?, Option.some.injEq] at h
    exact h ▸ List.suffix_rfl
  | cons c p ih =>
    cases t with
    | nil => simp [afterPrefixFold?] at h
    | cons d t =>
      rw [afterPrefixFold?] at h
      split at h
      · exact (ih h).trans (List.suffix_cons d t)
      · exact absurd h (by simp)

/-- Whether two texts are equal **letter by letter up to case**. -/
def sameLetters : Text → Text → Bool
  | [], [] => true
  | a :: as, b :: bs => sameLetter a b && sameLetters as bs
  | _, _ => false

/-- Whether the nearest character that counts is a cased one. -/
def nextIsCased (t : Text) : Bool :=
  match t.dropWhile isCaseIgnorable with
  | [] => false
  | c :: _ => isCased c

/-- The lower case of a character between what stands **before** it, nearest first, and after it. A
capital sigma that ends a word becomes a final sigma. -/
def lowerWithin (before : Text) (c : Char) (after : Text) : Text :=
  if c = 'Σ' then
    if nextIsCased before && !nextIsCased after then ['ς'] else ['σ']
  else if c = 'İ' then ['i', '\u0307']
  else [lowerChar c]

/-- Lower the characters of a text whose beginning, nearest character first, is given. -/
def lowerAfter : Text → Text → Text
  | _, [] => []
  | before, c :: rest => lowerWithin before c rest ++ lowerAfter (c :: before) rest

/-- The **lower case** of a text. -/
def lower (t : Text) : Text := lowerAfter [] t

/-- The **upper case** of one character, which may be several characters. -/
def upperChar (c : Char) : Text :=
  let n := c.toNat
  if n < 0x80 then [c.toUpper]
  else match upperExpansions.lookup n with
    | some letters => letters.map Char.ofNat
    | none => [Char.ofNat (shiftBy upperRuns n)]

/-- The **upper case** of a text. -/
def upper (t : Text) : Text := t.flatMap upperChar

end Text

end PlainSpec
