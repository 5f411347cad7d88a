import PlainSpec.Proofs.DecimalDigits
import PlainSpec.Proofs.TestMethods

/-!
# The characters of identifiers

Free text is turned into an identifier by keeping its word characters. But word characters and identifier characters
are told by different tables: a raised digit or a fraction belongs to a word and to no identifier, and some characters
may continue an identifier that may not start one. So what comes of a text is an identifier exactly if the word
characters of the text are identifier characters and the first of them may stand in front, or is a digit, which gets an
underscore in front of it. The name of a test has a beginning of its own. Only the first of the two conditions is left
there, and lowering the name neither breaks it nor brings it about.

## Main results

* `continuesIdentifier_of_startsIdentifier`: what may start an identifier may continue it.
* `continuesIdentifier_lowerChar`: lowering keeps whether a character may continue an identifier.
* `forall_mem_identifierOf`, `isIdentifier_guardDigit_iff`: which characters are kept, and what may stand in front.
* `isIdentifier_identifierOf`: which texts and which scenarios get legal names.
-/

namespace PlainSpec

/-! ### Ranges within ranges -/

section Ranges

variable {ranges others : List (Nat × Nat)} {low high n : Nat}

/-- Whether the code points from `low` up to `high` lie **within one of the ranges**. -/
def rangeWithin (ranges : List (Nat × Nat)) (low high : Nat) : Bool :=
  ranges.any fun range => Nat.ble range.1 low && Nat.ble high range.2

/-- Whether **every range lies within one of others**, where both lists are in order. What has been passed by a range
is not looked at again for the next one. -/
def rangesWithin : List (Nat × Nat) → List (Nat × Nat) → Bool
  | [], _ => true
  | range :: ranges, others =>
    match others.dropWhile fun other => Nat.blt other.2 range.1 with
    | [] => false
    | other :: others =>
      Nat.ble other.1 range.1 && Nat.ble range.2 other.2 && rangesWithin ranges (other :: others)

/-- A code point in a range **within ranges** is in these. -/
theorem inRanges_of_rangeWithin (h : rangeWithin ranges low high = true) (hlow : low ≤ n) (hhigh : n ≤ high) :
    inRanges ranges n = true := by
  obtain ⟨range, hrange, hwithin⟩ := List.any_eq_true.mp h
  obtain ⟨hfirst, hlast⟩ := Bool.and_eq_true_iff.mp hwithin
  exact inRanges_iff.mpr ⟨range, hrange, Nat.le_trans (Nat.ble_eq.mp hfirst) hlow,
    Nat.le_trans hhigh (Nat.ble_eq.mp hlast)⟩

/-- A code point in ranges that lie **within others** is in these. -/
theorem inRanges_of_rangesWithin (h : rangesWithin ranges others = true) (hn : inRanges ranges n = true) :
    inRanges others n = true := by
  obtain ⟨found, hfound, hfirst, hlast⟩ := inRanges_iff.mp hn
  clear hn
  induction ranges generalizing others with
  | nil => exact absurd hfound List.not_mem_nil
  | cons range ranges ih =>
      rw [rangesWithin] at h
      split at h
      · exact absurd h Bool.false_ne_true
      · next other rest hrest =>
        simp only [Bool.and_eq_true, Nat.ble_eq] at h
        obtain ⟨⟨hlow, hhigh⟩, hwithin⟩ := h
        -- the order of the lists only saves time: what is left of the others is among them anyway
        have hleft : ∀ q ∈ other :: rest, q ∈ others := fun q hq =>
          (List.dropWhile_suffix _).subset (hrest ▸ hq)
        rcases List.mem_cons.mp hfound with rfl | hfound
        · exact inRanges_iff.mpr ⟨other, hleft _ List.mem_cons_self, by omega, by omega⟩
        · obtain ⟨q, hq, hn⟩ := inRanges_iff.mp (ih hwithin hfound)
          exact inRanges_iff.mpr ⟨q, hleft q hq, hn⟩

/-- The ranges that reach into **a page** of code points. -/
def rangesOn (page : Nat × Nat) (ranges : List (Nat × Nat)) : List (Nat × Nat) :=
  ranges.filter fun range => Nat.ble page.1 range.2 && Nat.ble range.1 page.2

/-- For a code point on a page, **the ranges on the page** decide. -/
theorem inRanges_rangesOn {page : Nat × Nat} (hfirst : page.1 ≤ n) (hlast : n ≤ page.2) :
    inRanges (rangesOn page ranges) n = inRanges ranges n := by
  rw [Bool.eq_iff_iff, inRanges_iff, inRanges_iff]
  simp only [rangesOn, List.mem_filter, Bool.and_eq_true, Nat.ble_eq]
  constructor
  · rintro ⟨range, ⟨hrange, -⟩, hn⟩
    exact ⟨range, hrange, hn⟩
  · rintro ⟨range, hrange, hlow, hhigh⟩
    exact ⟨range, ⟨hrange, Nat.le_trans hfirst hhigh, Nat.le_trans hlow hlast⟩, hlow, hhigh⟩

end Ranges

namespace CaseRun

/-- The characters that a run **leads to**, as a run that leaves them alone. -/
def image (run : CaseRun) : CaseRun := ⟨(run.first + run.shift).toNat, (run.last + run.shift).toNat, run.step, 0⟩

/-- Whether a run leads from one page to another and **keeps to ranges** there: from within them to within them, or
else, as where there are other characters in between, from them to them and from others to others. -/
def keepsTo (ranges : List (Nat × Nat)) (run : CaseRun) (source target : Nat × Nat) : Bool :=
  run.isOn source && run.image.isOn target &&
    (rangeWithin (rangesOn source ranges) run.first run.last &&
        rangeWithin (rangesOn target ranges) run.image.first run.image.last ||
      (List.range (run.last + 1 - run.first)).all fun i => !run.covers (run.first + i) ||
        inRanges (rangesOn target ranges) ((run.first + i : Nat) + run.shift).toNat ==
          inRanges (rangesOn source ranges) (run.first + i))

/-- A run that keeps to ranges leads into them **from them only**. -/
theorem inRanges_of_keepsTo {ranges : List (Nat × Nat)} {run : CaseRun} {source target : Nat × Nat} {n : Nat}
    (h : run.keepsTo ranges source target = true) (hcovers : run.covers n = true) :
    inRanges ranges (n + run.shift).toNat = inRanges ranges n := by
  obtain ⟨hfirst, hlast, -⟩ := covers_iff.mp hcovers
  simp only [keepsTo, isOn, image, Bool.and_eq_true, Nat.ble_eq] at h
  obtain ⟨⟨⟨hsource, hsource'⟩, htarget, htarget'⟩, h⟩ := h
  have hfrom : inRanges (rangesOn source ranges) n = inRanges ranges n :=
    inRanges_rangesOn (by omega) (by omega)
  have hto : inRanges (rangesOn target ranges) (n + run.shift).toNat = inRanges ranges (n + run.shift).toNat :=
    inRanges_rangesOn (by omega) (by omega)
  rw [← hfrom, ← hto]
  rcases Bool.or_eq_true_iff.mp h with h | h
  · obtain ⟨hwithin, hwithin'⟩ := Bool.and_eq_true_iff.mp h
    rw [inRanges_of_rangeWithin hwithin hfirst hlast, inRanges_of_rangeWithin hwithin' (by omega) (by omega)]
  · have hi := List.all_eq_true.mp h (n - run.first) (List.mem_range.mpr (by omega))
    rw [Nat.add_sub_cancel' hfirst, hcovers] at hi
    simpa using hi

end CaseRun

/-! ### Characters of identifiers -/

/-- The characters **of ASCII** that may continue an identifier. -/
def asciiContinueRanges : List (Nat × Nat) := [(48, 57), (65, 90), (95, 95), (97, 122)]

/-- The characters that may **continue an identifier**, those of ASCII included. -/
def continueRanges : List (Nat × Nat) := asciiContinueRanges ++ identifierContinueRanges

/-- **What is checked of the tables**: in ASCII the ranges are the letters, the digits and the underscore, the others
begin beyond ASCII, what may start an identifier may continue it, and every run of the case mapping keeps to the
characters that may. -/
theorem continueRanges_checked :
    (∀ n < 0x80, continuesIdentifier (Char.ofNat n) = inRanges asciiContinueRanges n) ∧
    identifierContinueRanges.all (fun range => Nat.ble 0x80 range.1) = true ∧
    rangesWithin identifierStartRanges identifierContinueRanges = true ∧
    caseRuns.all (fun run => casePages.any fun source => casePages.any (run.keepsTo continueRanges source)) = true := by
  decide +kernel

/-- Which characters may continue an identifier is told **by one table**, in ASCII and beyond. -/
theorem continuesIdentifier_eq (c : Char) : continuesIdentifier c = inRanges continueRanges c.toNat := by
  obtain ⟨hascii, hbeyond, -⟩ := continueRanges_checked
  have happend : inRanges continueRanges c.toNat =
      (inRanges asciiContinueRanges c.toNat || inRanges identifierContinueRanges c.toNat) := List.any_append
  rw [happend]
  by_cases hc : c.toNat < 0x80
  · have hnone : inRanges identifierContinueRanges c.toNat = false := by
      rw [← Bool.not_eq_true, inRanges_iff]
      rintro ⟨range, hrange, hfirst, -⟩
      have := Nat.ble_eq.mp (List.all_eq_true.mp hbeyond range hrange)
      omega
    have h := hascii c.toNat hc
    rw [Char.ofNat_toNat] at h
    rw [hnone, Bool.or_false, h]
  · have hnone : inRanges asciiContinueRanges c.toNat = false := by
      rw [← Bool.not_eq_true, inRanges_iff]
      rintro ⟨range, hrange, -, hlast⟩
      have hends : ∀ range ∈ asciiContinueRanges, range.2 < 0x80 := by decide
      have := hends range hrange
      omega
    rw [continuesIdentifier, if_neg hc, hnone, Bool.false_or]

/-- **What may start an identifier may continue it.** -/
theorem continuesIdentifier_of_startsIdentifier {c : Char} (h : startsIdentifier c = true) :
    continuesIdentifier c = true := by
  unfold startsIdentifier at h
  unfold continuesIdentifier
  split at h
  · next hascii =>
    rw [if_pos hascii, Char.isAlphanum]
    rcases Bool.or_eq_true_iff.mp h with h | h <;> simp [h]
  · next hascii =>
    rw [if_neg hascii]
    exact inRanges_of_rangesWithin continueRanges_checked.2.2.1 h

/-- A digit of ASCII may **continue an identifier**. -/
theorem continuesIdentifier_of_isDigit {c : Char} (h : c.isDigit = true) : continuesIdentifier c = true :=
  forall_isDigit (p := continuesIdentifier) (by decide) h

/-- **Lowering keeps** whether a character may continue an identifier. -/
theorem continuesIdentifier_lowerChar (c : Char) : continuesIdentifier (lowerChar c) = continuesIdentifier c := by
  by_cases hlower : lowerChar c = c
  · rw [hlower]
  · obtain ⟨run, hrun, hcovers, hshift, -⟩ := exists_run_of_lowerChar_ne hlower
    obtain ⟨source, -, hsource⟩ := List.any_eq_true.mp (List.all_eq_true.mp continueRanges_checked.2.2.2 run hrun)
    obtain ⟨target, -, hkeeps⟩ := List.any_eq_true.mp hsource
    rw [continuesIdentifier_eq, continuesIdentifier_eq, hshift, CaseRun.inRanges_of_keepsTo hkeeps hcovers]

/-- A lowered text is made of characters that may continue an identifier **exactly if the text is**. -/
theorem all_continuesIdentifier_lower (t : Text) :
    (Text.lower t).all continuesIdentifier = t.all continuesIdentifier := by
  -- the two capitals that the case mapping alone does not lower, and what they are lowered to
  have hspecial : [['σ'], ['ς'], ['Σ'], ['İ'], ['i', '\u0307']].all (·.all continuesIdentifier) = true := by
    decide +kernel
  refine Text.all_lower (fun before c after => ?_) t
  unfold Text.lowerWithin
  simp only [List.all_cons, List.all_nil, Bool.and_true, Bool.and_eq_true] at hspecial
  split
  · next hc =>
    subst hc
    split <;> simp [hspecial]
  · split
    · next hc =>
      subst hc
      simp [hspecial]
    · simp [continuesIdentifier_lowerChar]

/-! ### The identifier of a text -/

namespace Text

/-- The words of a text without punctuation are **its word characters**, one after the other. -/
theorem flatten_words_withoutPunctuation (t : Text) :
    (words (withoutPunctuation t)).flatten = t.filter isWordChar := by
  rw [flatten_words, withoutPunctuation, List.filter_filter]
  refine List.filter_congr fun c _ => ?_
  cases hblank : isBlank c with
  | true => simp [(blank_apart hblank).1]
  | false => simp

end Text

/-- A guarded text is made of the **same characters**, and perhaps an underscore. -/
theorem all_guardDigit {p : Char → Bool} (hp : p '_' = true) (t : Text) : (guardDigit t).all p = t.all p := by
  cases t with
  | nil => simp [guardDigit, hp]
  | cons c t =>
      rw [guardDigit]
      split
      · rw [List.all_cons, hp, Bool.true_and]
      · rfl

/-- **The characters of an identifier** are the word characters of its text, and underscores. -/
theorem forall_mem_identifierOf {p : Char → Bool} (hp : p '_' = true) (t : Text) :
    (∀ c ∈ identifierOf t, p c = true) ↔ ∀ c ∈ t, isWordChar c = true → p c = true := by
  have hall : (identifierOf t).all p = (t.filter isWordChar).all p := by
    rw [identifierOf, all_guardDigit hp, Text.all_join (by simpa using hp), Text.flatten_words_withoutPunctuation]
  rw [← List.all_eq_true, hall, List.all_eq_true]
  simp only [List.mem_filter, and_imp]

/-- A guarded text is **not empty and begins with no digit**. -/
theorem head_guardDigit (t : Text) : ∃ c rest, guardDigit t = c :: rest ∧ isDigit c = false := by
  cases t with
  | nil => exact ⟨'_', [], rfl, rfl⟩
  | cons c t =>
      rw [guardDigit]
      cases hdigit : isDigit c with
      | true => exact ⟨'_', c :: t, rfl, rfl⟩
      | false => exact ⟨c, t, rfl, hdigit⟩

/-- A guarded text is an identifier **exactly if** it is made of characters that may continue one and the text begins
with a digit or with a character that may start one. -/
theorem isIdentifier_guardDigit_iff {t : Text} : isIdentifier (guardDigit t) = true ↔
    (∀ c ∈ t, continuesIdentifier c = true) ∧ ∀ c ∈ t.head?, isDigit c = true ∨ startsIdentifier c = true := by
  have hmark : startsIdentifier '_' = true := rfl
  cases t with
  | nil => simp [guardDigit, isIdentifier, hmark]
  | cons c t =>
      rw [guardDigit]
      cases hdigit : isDigit c with
      | true =>
          rw [if_pos rfl, isIdentifier, hmark, Bool.true_and, List.all_eq_true]
          simp [hdigit]
      | false =>
          rw [if_neg Bool.false_ne_true, isIdentifier, Bool.and_eq_true, List.all_eq_true, List.forall_mem_cons]
          simp only [List.head?_cons, Option.mem_some_iff, forall_eq', hdigit, Bool.false_eq_true, false_or]
          constructor
          · rintro ⟨hc, ht⟩
            exact ⟨⟨continuesIdentifier_of_startsIdentifier hc, ht⟩, hc⟩
          · rintro ⟨⟨-, ht⟩, hc⟩
            exact ⟨hc, ht⟩

/-- A text that has a legal name for its **word characters**: each of them may continue an identifier. -/
def Namable (t : Text) : Prop := ∀ c ∈ t, isWordChar c = true → continuesIdentifier c = true

/-- Free text spells an identifier **exactly if** its word characters may continue one, and the first of them may
start it or is a digit. -/
theorem isIdentifier_identifierOf_iff (t : Text) : isIdentifier (identifierOf t) = true ↔
    Namable t ∧ ∀ c, t.find? isWordChar = some c → isDigit c = true ∨ startsIdentifier c = true := by
  have hhead : (Text.join "_" (Text.words (withoutPunctuation t))).head? = t.find? isWordChar := by
    rw [Text.head?_join fun w hw => (Text.mem_words hw).1, Text.flatten_words_withoutPunctuation, List.head?_filter]
  have hchars := forall_mem_identifierOf (p := continuesIdentifier) rfl t
  rw [identifierOf, ← List.all_eq_true, all_guardDigit rfl, List.all_eq_true] at hchars
  rw [identifierOf, isIdentifier_guardDigit_iff, hchars, hhead]
  rfl

/-! ### The names of tests -/

/-- A number or nothing behind a name **continues** it. -/
theorem all_continuesIdentifier_freeName (taken : List Text) (base : Text) :
    (Text.freeName taken base "_").all continuesIdentifier = base.all continuesIdentifier := by
  rcases Text.freeName_eq_or taken base "_" with h | ⟨n, h⟩
  · rw [h]
  · have hmark : ("_" : Text).all continuesIdentifier = true := by decide
    have hdigits : (Text.ofNat n).all continuesIdentifier = true :=
      List.all_eq_true.mpr fun c hc => continuesIdentifier_of_isDigit (digits_ofNat n c hc)
    rw [h, List.all_append, List.all_append, hmark, hdigits, Bool.and_true, Bool.and_true]

/-- The name of a test is made of characters that may continue an identifier **exactly if** the word characters of
its scenario may. -/
theorem all_continuesIdentifier_testNameOf (scenario : Text) :
    (testNameOf scenario).all continuesIdentifier = true ↔ Namable scenario := by
  have hfront : ("test_" : Text).all continuesIdentifier = true := by decide
  have hname : (testNameOf scenario).all continuesIdentifier =
      (("test_" : Text).all continuesIdentifier && (Text.lower (identifierOf scenario)).all continuesIdentifier) :=
    List.all_append
  rw [hname, hfront, Bool.true_and, all_continuesIdentifier_lower, List.all_eq_true]
  exact forall_mem_identifierOf rfl scenario

/-- The name of a test is **an identifier** if it is made of characters that may continue one, as it begins with a
letter. -/
theorem isIdentifier_freeName_testNameOf_iff (taken : List Text) (scenario : Text) :
    isIdentifier (Text.freeName taken (testNameOf scenario) "_") = true ↔ Namable scenario := by
  have hhead : ∃ rest, Text.freeName taken (testNameOf scenario) "_" = 't' :: rest := by
    rcases Text.freeName_eq_or taken (testNameOf scenario) "_" with h | ⟨n, h⟩
    · exact ⟨_, h⟩
    · exact ⟨_, h⟩
  rw [← all_continuesIdentifier_testNameOf, ← all_continuesIdentifier_freeName taken]
  obtain ⟨rest, hrest⟩ := hhead
  have ht : startsIdentifier 't' = true ∧ continuesIdentifier 't' = true := by decide
  rw [hrest, isIdentifier, List.all_cons, ht.1, ht.2]

/-- **A test has a legal name** exactly if the word characters of its scenario may continue an identifier. -/
theorem isIdentifier_of_mem_testsFor {taken scenarios : List Text} {test : Text × Text}
    (h : test ∈ testsFor taken scenarios) : isIdentifier test.1 = true ↔ Namable test.2 := by
  obtain ⟨before, later, hsplit⟩ := List.append_of_mem h
  rw [fst_eq_freeName_of_testsFor hsplit]
  exact isIdentifier_freeName_testNameOf_iff _ test.2

/-- **All tests of a list have legal names** exactly if all scenarios of the list do. -/
theorem forall_isIdentifier_tests_iff (scenarios : List Text) :
    (∀ test ∈ tests scenarios, isIdentifier test.1 = true) ↔ ∀ scenario ∈ scenarios, Namable scenario := by
  have hscenarios := map_snd_testsFor [] scenarios
  constructor
  · intro hlegal scenario hscenario
    rw [← hscenarios] at hscenario
    obtain ⟨test, htest, rfl⟩ := List.mem_map.mp hscenario
    exact (isIdentifier_of_mem_testsFor htest).mp (hlegal test htest)
  · intro hnamable test htest
    have hscenario : test.2 ∈ scenarios := hscenarios ▸ List.mem_map_of_mem htest
    exact (isIdentifier_of_mem_testsFor htest).mpr (hnamable test.2 hscenario)

/-- **What free text spells is an identifier exactly if its characters are those of identifiers.** It is never empty,
holds nothing but word characters and begins with no digit. But it is an identifier only if the word characters of the
text may continue one, and the first of them may start it or is a digit. The tests for scenarios are in the order of the
scenarios, and a test has a legal name exactly if the word characters of its scenario's name may continue an identifier;
so all methods of a test module have legal names exactly if this holds of all scenarios in the document. -/
theorem isIdentifier_identifierOf (t : Text) (scenarios : List Text) :
    identifierOf t ≠ [] ∧ (∀ c ∈ identifierOf t, isWordChar c = true) ∧
      (∀ c ∈ (identifierOf t).head?, isDigit c = false) ∧
      (isIdentifier (identifierOf t) = true ↔
        Namable t ∧ ∀ c, t.find? isWordChar = some c → isDigit c = true ∨ startsIdentifier c = true) ∧
      (tests scenarios).map Prod.snd = scenarios ∧
      (∀ test ∈ tests scenarios, isIdentifier test.1 = true ↔ Namable test.2) ∧
      ∀ (g : Generator) (base : Option Text) (document : Document) (specification file : Path),
        (∀ test ∈ (g.testModule base document specification file).tests, isIdentifier test.1 = true) ↔
          ∀ name ∈ document.scenarioNames, Namable name := by
  obtain ⟨c, rest, hidentifier, hdigit⟩ := head_guardDigit (Text.join "_" (Text.words (withoutPunctuation t)))
  rw [← identifierOf] at hidentifier
  have hne : identifierOf t ≠ [] := hidentifier ▸ List.cons_ne_nil c rest
  have hwords : ∀ c ∈ identifierOf t, isWordChar c = true :=
    (forall_mem_identifierOf rfl t).mpr fun _ _ hc => hc
  have hhead : ∀ c ∈ (identifierOf t).head?, isDigit c = false := by
    rw [hidentifier]
    simpa using hdigit
  exact ⟨hne, hwords, hhead, isIdentifier_identifierOf_iff t, map_snd_testsFor [] scenarios,
    fun test htest => isIdentifier_of_mem_testsFor htest,
    fun _ _ document _ _ => forall_isIdentifier_tests_iff document.scenarioNames⟩

/-- A raised digit and a fraction **belong to words but to no identifier**, and the vowel sign that is the third text
may continue an identifier but not start one. -/
theorem isIdentifier_identifierOf_raised :
    identifierOf "x²" = ("x²" : Text) ∧ isIdentifier "x²" = false ∧ isIdentifier (identifierOf "½") = false ∧
      isIdentifier (identifierOf "\u0e33") = false ∧
      tests ["x²"] = [(("test_x²" : Text), ("x²" : Text))] ∧ isIdentifier "test_x²" = false := by
  decide +kernel

end PlainSpec
