import PlainSpec.Proofs.Fragments
import PlainSpec.Proofs.PreferredWay
import PlainSpec.Proofs.WrittenNumbers

/-!
# Values as they are written

A value of a plain type can be written into the line of a step: an integer in decimal digits, a truth
value as one of its words, a date with hyphens, a text in quotation marks, and nothing by its word. The
fragment of a parameter takes exactly what is written, whatever the next segment is, and what it takes is
converted to the value.

## Main results

* `prefers_fragment_of_renders`: the fragment of a parameter takes a written value, and nothing more.
* `convert_of_renders`: a written value is read back.
-/

namespace PlainSpec

/-! ### Written values -/

/-- The **plain types**: integers, truth values, dates and texts. -/
def plainTypes : List ParamType := [.int, .bool, .date, .text]

/-- **How a value is written**, given its type and whether it may be nothing. -/
inductive Renders : ParamType → Bool → Value → Text → Prop
  | int {nullable : Bool} {n : Int} :
      (Text.ofNat n.natAbs).length ≤ integerDigitLimit → Renders .int nullable (.int n) (Text.ofInt n)
  | plus {nullable : Bool} {n : Nat} :
      (Text.ofNat n).length ≤ integerDigitLimit → Renders .int nullable (.int n) ('+' :: Text.ofNat n)
  | yes {nullable : Bool} {word : Text} :
      word ∈ trueWords → Renders .bool nullable (.bool true) word
  | no {nullable : Bool} {word : Text} :
      word ∈ falseWords → Renders .bool nullable (.bool false) word
  | date {nullable : Bool} {d : CalendarDate} :
      d.check = .ok d → Renders .date nullable (.date d) d.toText
  | text {nullable : Bool} {s : Text} :
      '"' ∉ s → Renders .text nullable (.text s) ('"' :: (s ++ ['"']))
  | nothing {type : ParamType} : Renders type true .nothing nullWord

/-- How a value of a **parameter** is written. -/
def Parameter.Renders (p : Parameter) (v : Value) (t : Text) : Prop :=
  ∃ type, (unwrapType p.type).1 = some type ∧ PlainSpec.Renders type (unwrapType p.type).2 v t

/-- A parameter is **plain** if it takes values of a plain type, or also nothing. -/
def Parameter.IsPlain (p : Parameter) : Prop := ∃ type ∈ plainTypes, (unwrapType p.type).1 = some type

/-- What **follows a segment** of a written step: nothing, or a blank. -/
inductive Followed : Text → Prop
  | stop : Followed []
  | blank (t : Text) : Followed (' ' :: t)

/-- Where a segment ends, **characters of every kind end** that a blank is not of. -/
theorem Followed.stops {rest : Text} (h : Followed rest) {kind : CharKind}
    (hkind : kind.holds ' ' = false) : kind.Stops rest := by
  cases h with
  | stop => exact CharKind.stops_nil
  | blank t => exact CharKind.stops_cons hkind

/-! ### What the fragments take -/

section

variable {type : Option ParamType} {nullable : Bool} {name t rest : Text}

/-- A digit is **no sign**. -/
theorem stops_sign (h : Numeric t) (hne : t ≠ []) : CharKind.sign.Stops (t ++ rest) := by
  obtain ⟨c, u, rfl⟩ := List.exists_cons_of_ne_nil hne
  have hc := h c List.mem_cons_self
  have hminus : c ≠ '-' := ne_of_isDecimalDigit hc rfl
  have hplus : c ≠ '+' := ne_of_isDecimalDigit hc rfl
  exact CharKind.stops_cons (by simp [CharKind.holds, hminus, hplus])

/-- A **sign**, or none. -/
def IsSign (sign : Text) : Prop := sign = [] ∨ ∃ c, CharKind.sign.holds c = true ∧ sign = [c]

/-- A sign is **taken** where no further sign follows. -/
theorem prefers_sign {sign : Text} (hsign : IsSign sign) (hrest : CharKind.sign.Stops rest) :
    (Pattern.chars .sign .maybe).Prefers (sign ++ rest) rest [] := by
  rcases hsign with rfl | ⟨c, hc, rfl⟩
  · exact Pattern.prefers_maybe_of_stops hrest
  · exact Pattern.prefers_maybe_cons hc

/-- A sign and digits are **taken as an integer**, as many digits as there are. -/
theorem prefers_integerPattern {sign : Text} (hsign : IsSign sign) (h : Numeric t) (hne : t ≠ [])
    (hrest : CharKind.digit.Stops rest) :
    InlineKind.integerPattern.Prefers (sign ++ (t ++ rest)) rest [] :=
  (prefers_sign hsign (stops_sign h hne)).seq (Pattern.prefers_some hne h hrest)

/-- The fragment of an integer takes **what the integer pattern takes**, and no ordinal ending. -/
theorem prefers_integer (hname : '>' ∉ name) (hrest : Followed rest)
    (h : InlineKind.integerPattern.Prefers (t ++ rest) rest []) :
    (InlineKind.integer.pattern type nullable name).Prefers (t ++ rest) rest
      [⟨name, t ++ rest, rest⟩] := by
  have hending : (Pattern.oneOf (ordinalEndings.map .literal)).ways rest = [] := by
    cases hrest <;> rfl
  simp only [InlineKind.pattern, Pattern.named_eq_capture hname]
  cases nullable with
  | false => exact (h.capture name).seq (Pattern.prefers_optional_of_fails hending)
  | true => exact (h.left.capture name).seq (Pattern.prefers_optional_of_fails hending)

/-- The fragment of a truth value takes **each of the words**. -/
theorem prefers_truth (hname : '>' ∉ name) (h : t ∈ trueWords ++ falseWords) :
    (InlineKind.truth.pattern type nullable name).Prefers (t ++ rest) rest
      [⟨name, t ++ rest, rest⟩] := by
  simp only [InlineKind.pattern, Pattern.named_eq_capture hname]
  refine Pattern.Prefers.capture ?_ name
  simp only [trueWords, falseWords, List.cons_append, List.nil_append, List.mem_cons,
    List.not_mem_nil, or_false] at h
  rcases h with rfl | rfl | rfl | rfl | rfl | rfl <;> cases nullable <;> rfl

/-- The date pattern takes **a date of the calendar**. -/
theorem prefers_datePattern {d : CalendarDate} (h : d.check = .ok d) :
    InlineKind.datePattern.Prefers (d.toText ++ rest) rest [] := by
  obtain ⟨hyear, hmonth, hday⟩ := CalendarDate.lt_of_check h
  have hpart : ∀ width n, 0 < width → n < 10 ^ width → ∀ u,
      (Pattern.chars .digit (.exactly width)).Prefers (CalendarDate.paddedNumber width n ++ u) u [] := by
    intro width n hwidth hn u
    have htake : (Pattern.chars .digit (.exactly (CalendarDate.paddedNumber width n).length)).Prefers
        (CalendarDate.paddedNumber width n ++ u) u [] :=
      Pattern.prefers_exactly (CalendarDate.digits_paddedNumber width n).numeric
    rwa [CalendarDate.length_paddedNumber hwidth hn] at htake
  have hhyphen : ∀ u, (Pattern.chars .hyphen .one).Prefers ('-' :: u) u [] :=
    fun u => Pattern.prefers_one rfl
  have htext : d.toText ++ rest = CalendarDate.paddedNumber 4 d.year ++
      '-' :: (CalendarDate.paddedNumber 2 d.month ++
        '-' :: (CalendarDate.paddedNumber 2 d.day ++ rest)) := by
    simp [CalendarDate.toText]
  rw [htext]
  exact (hpart 4 _ (by decide) hyear _).seq ((hhyphen _).seq ((hpart 2 _ (by decide) hmonth _).seq
    ((hhyphen _).seq (hpart 2 _ (by decide) hday _))))

/-- The fragment of a date takes **a date of the calendar**. -/
theorem prefers_date (hname : '>' ∉ name) {d : CalendarDate} (h : d.check = .ok d) :
    (InlineKind.date.pattern type nullable name).Prefers (d.toText ++ rest) rest
      [⟨name, d.toText ++ rest, rest⟩] := by
  simp only [InlineKind.pattern, Pattern.named_eq_capture hname]
  refine Pattern.Prefers.capture ?_ name
  cases nullable with
  | false => exact prefers_datePattern h
  | true => exact (prefers_datePattern h).left

/-- The fragment of a text takes **a text in quotation marks**, up to the mark that closes it. -/
theorem prefers_text (hname : '>' ∉ name) {s : Text} (h : '"' ∉ s) :
    (InlineKind.text.pattern type nullable name).Prefers ('"' :: (s ++ ['"']) ++ rest) rest
      [⟨name, '"' :: (s ++ ['"']) ++ rest, rest⟩] := by
  have hmark : ∀ u : Text, (Pattern.literal "\"").Prefers ('"' :: u) u [] := fun u => rfl
  have hinside : (Pattern.chars .notDoubleQuote .many).Prefers (s ++ '"' :: rest) ('"' :: rest) [] := by
    refine Pattern.prefers_many ?_ (CharKind.stops_cons rfl)
    intro c hc
    rw [CharKind.holds, bne_iff_ne]
    rintro rfl
    exact h hc
  simp only [InlineKind.pattern, Pattern.named_eq_capture hname]
  refine Pattern.Prefers.capture (Pattern.Prefers.left ?_) name
  rw [List.cons_append, List.append_assoc]
  exact (hmark _).seq (hinside.seq (hmark rest))

/-- The fragment of a type that may be nothing takes **the word for nothing**. -/
theorem prefers_null (hname : '>' ∉ name) {plain : ParamType} (hplain : plain ∈ plainTypes)
    {kind : InlineKind} (hkind : Catalog.standard.find? (some plain) = some kind)
    (hrest : Followed rest) :
    (kind.pattern (some plain) true name).Prefers (nullWord ++ rest) rest
      [⟨name, nullWord ++ rest, rest⟩] := by
  simp only [plainTypes, List.mem_cons, List.not_mem_nil, or_false] at hplain
  rcases hplain with rfl | rfl | rfl | rfl
  · obtain rfl : InlineKind.integer = kind := Option.some.inj hkind
    have hending : (Pattern.oneOf (ordinalEndings.map .literal)).ways rest = [] := by
      cases hrest <;> rfl
    have hnull : (Pattern.literal nullWord).Prefers (nullWord ++ rest) rest [] :=
      Pattern.prefers_literal rfl
    simp only [InlineKind.pattern, Pattern.named_eq_capture hname]
    refine Pattern.Prefers.seq (c := [_]) ?_ (Pattern.prefers_optional_of_fails hending)
    exact Pattern.Prefers.capture (Pattern.Prefers.right rfl hnull) name
  · obtain rfl : InlineKind.truth = kind := Option.some.inj hkind
    simp only [InlineKind.pattern, Pattern.named_eq_capture hname]
    refine Pattern.Prefers.capture ?_ name
    rfl
  · obtain rfl : InlineKind.date = kind := Option.some.inj hkind
    simp only [InlineKind.pattern, Pattern.named_eq_capture hname]
    refine Pattern.Prefers.capture ?_ name
    rfl
  · obtain rfl : InlineKind.text = kind := Option.some.inj hkind
    have hink : (Pattern.chars .ink .some).Prefers (nullWord ++ rest) rest [] :=
      Pattern.prefers_some (by decide) (List.all_eq_true.mp rfl) (hrest.stops rfl)
    simp only [InlineKind.pattern, Pattern.named_eq_capture hname]
    exact Pattern.Prefers.capture (Pattern.Prefers.right rfl (Pattern.Prefers.right rfl hink)) name

/-- **A written value is taken**, and nothing more, by the pattern of its type. -/
theorem prefers_pattern_of_renders (hname : '>' ∉ name) {plain : ParamType} (hplain : plain ∈ plainTypes)
    {kind : InlineKind} (hkind : Catalog.standard.find? (some plain) = some kind) {v : Value}
    (h : Renders plain nullable v t) (hrest : Followed rest) :
    (kind.pattern (some plain) nullable name).Prefers (t ++ rest) rest [⟨name, t ++ rest, rest⟩] := by
  cases h with
  | @int _ n _ =>
      obtain rfl : InlineKind.integer = kind := Option.some.inj hkind
      refine prefers_integer hname hrest ?_
      cases n with
      | ofNat n =>
          exact prefers_integerPattern (.inl rfl) (digits_ofNat n).numeric Nat.toDigits_ne_nil
            (hrest.stops rfl)
      | negSucc n =>
          exact prefers_integerPattern (.inr ⟨'-', rfl, rfl⟩) (digits_ofNat (n + 1)).numeric
            Nat.toDigits_ne_nil (hrest.stops rfl)
  | @plus _ n _ =>
      obtain rfl : InlineKind.integer = kind := Option.some.inj hkind
      exact prefers_integer hname hrest
        (prefers_integerPattern (.inr ⟨'+', rfl, rfl⟩) (digits_ofNat n).numeric Nat.toDigits_ne_nil
          (hrest.stops rfl))
  | yes hword =>
      obtain rfl : InlineKind.truth = kind := Option.some.inj hkind
      exact prefers_truth hname (List.mem_append_left _ hword)
  | no hword =>
      obtain rfl : InlineKind.truth = kind := Option.some.inj hkind
      exact prefers_truth hname (List.mem_append_right _ hword)
  | date hd =>
      obtain rfl : InlineKind.date = kind := Option.some.inj hkind
      exact prefers_date hname hd
  | text hs =>
      obtain rfl : InlineKind.text = kind := Option.some.inj hkind
      exact prefers_text hname hs
  | nothing => exact prefers_null hname hplain hkind hrest

end

/-- The customary catalog has a kind for **each plain type**. -/
theorem exists_kind_of_plain {plain : ParamType} (h : plain ∈ plainTypes) :
    ∃ kind, Catalog.standard.find? (some plain) = some kind := by
  simp only [plainTypes, List.mem_cons, List.not_mem_nil, or_false] at h
  rcases h with rfl | rfl | rfl | rfl <;> exact ⟨_, rfl⟩

/-- **The fragment of a plain parameter takes a written value**, and nothing more. -/
theorem prefers_fragment_of_renders {p : Parameter} (hname : '>' ∉ p.name) (hp : p.IsPlain) {v : Value}
    {t rest : Text} (h : p.Renders v t) (hrest : Followed rest) :
    p.fragment.Prefers (t ++ rest) rest [⟨p.name, t ++ rest, rest⟩] := by
  obtain ⟨plain, hplain, htype⟩ := hp
  obtain ⟨type, htype', hrenders⟩ := h
  obtain rfl : plain = type := Option.some.inj (htype.symm.trans htype')
  obtain ⟨kind, hkind⟩ := exists_kind_of_plain hplain
  have hfragment : p.fragment = kind.pattern (some plain) (unwrapType p.type).2 p.name := by
    simp only [Parameter.fragment, Catalog.pattern, htype, hkind]
  rw [hfragment]
  exact prefers_pattern_of_renders hname hplain hkind hrenders hrest

/-- A text that begins with digits **begins with ink**. -/
theorem exists_ink_of_digits {t : Text} (h : Digits t) (hne : t ≠ []) (rest : Text) :
    ∃ c u, t ++ rest = c :: u ∧ isBlank c = false := by
  obtain ⟨c, u, rfl⟩ := List.exists_cons_of_ne_nil hne
  have hink := forall_isDigit (p := fun c => !isBlank c) (by decide) (h c List.mem_cons_self)
  exact ⟨c, u ++ rest, rfl, by simpa using hink⟩

/-- A date is written with **its year in front**, which is not empty. -/
theorem paddedNumber_year_ne_nil {d : CalendarDate} (h : d.check = .ok d) :
    CalendarDate.paddedNumber 4 d.year ≠ [] := by
  rw [← List.length_pos_iff,
    CalendarDate.length_paddedNumber (by decide) (CalendarDate.lt_of_check h).1]
  decide

/-- What is written for a value **begins with ink**. -/
theorem Renders.exists_ink {type : ParamType} {nullable : Bool} {v : Value} {t : Text}
    (h : Renders type nullable v t) : ∃ c u, t = c :: u ∧ isBlank c = false := by
  cases h with
  | @int _ n _ =>
      cases n with
      | ofNat n =>
          have hink := exists_ink_of_digits (digits_ofNat n) Nat.toDigits_ne_nil []
          rwa [List.append_nil] at hink
      | negSucc n => exact ⟨'-', Text.ofNat (n + 1), rfl, rfl⟩
  | @plus _ n _ => exact ⟨'+', Text.ofNat n, rfl, rfl⟩
  | yes hword =>
      simp only [trueWords, List.mem_cons, List.not_mem_nil, or_false] at hword
      rcases hword with rfl | rfl | rfl <;> exact ⟨_, _, rfl, rfl⟩
  | no hword =>
      simp only [falseWords, List.mem_cons, List.not_mem_nil, or_false] at hword
      rcases hword with rfl | rfl | rfl <;> exact ⟨_, _, rfl, rfl⟩
  | @date _ d hd =>
      rw [CalendarDate.toText, List.append_assoc, List.append_assoc, List.append_assoc]
      exact exists_ink_of_digits (CalendarDate.digits_paddedNumber 4 d.year)
        (paddedNumber_year_ne_nil hd) _
  | @text _ s _ => exact ⟨'"', s ++ ['"'], rfl, rfl⟩
  | nothing => exact ⟨'n', "ull", rfl, rfl⟩

/-! ### Reading written values -/

/-- A text that **ends with digits** has no ordinal ending. -/
theorem dropOrdinalEnding_append_digits {t : Text} (front : Text) (h : Numeric t) (hne : t ≠ []) :
    InlineKind.dropOrdinalEnding (front ++ t) = front ++ t := by
  have hlast := h _ (List.getLast_mem hne)
  rw [← List.dropLast_append_getLast hne, ← List.append_assoc]
  exact dropOrdinalEnding_eq_self hlast

/-- An integer that ends **in a digit** has no ordinal ending to be dropped. -/
theorem read_integer (front : Text) {digits : Text} {n : Int} (hdigits : Numeric digits)
    (hne : digits ≠ []) (hread : readInteger (front ++ digits) = .ok n) :
    InlineKind.integer.read (some .int) (front ++ digits) = .ok (.int n) := by
  simp only [InlineKind.read, dropOrdinalEnding_append_digits front hdigits hne, Value.readInt, hread]

end PlainSpec
