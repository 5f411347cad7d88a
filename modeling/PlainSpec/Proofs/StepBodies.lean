import PlainSpec.Proofs.Layout
import PlainSpec.Proofs.LetterVariants
import PlainSpec.Proofs.Paragraphs

/-!
# Step keywords and bodies

The line of a step is its keyword, white space and its body. The reader recognises the keyword letter by letter, each
of them in any case, as the longest word of the first keyword that opens the line. The body is found once more without
the reader: the keyword is lowered, and so is the whole line, and if the one begins with the other the keyword is cut
off. Lowering a letter depends on the letters around it, and a lowered text may be longer. But no letter looks past
white space, and white space stands behind every keyword (`Text.lower_append_blank`). So the lowered line begins with
the lowered keyword, and what is cut off is the keyword that has been recognised.

## Main results

* `Text.lower_append_blank`: what stands on either side of white space is lowered by itself.
* `Language.stepKeyword?_eq_some`: the keyword of a line is spelled by the longest word that opens it.
* `Document.ofText_bodies`: the keyword and the body of every step that is read.
-/

namespace PlainSpec

/-! ### Lowering in front of white space -/

namespace Text

/-- White space is **passed by no letter**: it is no letter itself, and is not skipped over. -/
theorem caseless_of_isBlank {c : Char} (hc : isBlank c = true) : isCased c = false ∧ isCaseIgnorable c = false := by
  have hapart := forall_isBlank (p := fun c => !isCased c && !isCaseIgnorable c) (by decide +kernel) hc
  simpa using hapart

/-- The next letter of a text does not stand **behind white space**. -/
theorem nextIsCased_append_blank {c : Char} (hc : isBlank c = true) (t rest : Text) :
    nextIsCased (t ++ c :: rest) = nextIsCased t := by
  obtain ⟨hcased, hignorable⟩ := caseless_of_isBlank hc
  have hdrop : (c :: rest).dropWhile isCaseIgnorable = c :: rest := by
    rw [List.dropWhile_cons_of_neg (by simp [hignorable])]
  rw [nextIsCased, nextIsCased, List.dropWhile_append, hdrop]
  cases t.dropWhile isCaseIgnorable with
  | nil => exact hcased
  | cons d u => rfl

/-- What stands **behind white space** is lowered as if nothing were in front of it. -/
theorem lowerAfter_append_blank {c : Char} (hc : isBlank c = true) (before more t : Text) :
    lowerAfter (before ++ c :: more) t = lowerAfter before t := by
  induction t generalizing before with
  | nil => rfl
  | cons d t ih =>
      have hwithin : lowerWithin (before ++ c :: more) d t = lowerWithin before d t := by
        rw [lowerWithin, nextIsCased_append_blank hc, lowerWithin]
      rw [lowerAfter, lowerAfter, hwithin, ← ih (d :: before), List.cons_append]

/-- A text is lowered **on both sides of white space** by itself. -/
theorem lower_append_blank (u : Text) {c : Char} (hc : isBlank c = true) (rest : Text) :
    lower (u ++ c :: rest) = lower u ++ c :: lower rest := by
  have hself : lowerChar c = c :=
    beq_iff_eq.mp (forall_isBlank (p := fun c => lowerChar c == c) (by decide +kernel) hc)
  have hafter : ∀ before, lowerAfter before (u ++ c :: rest) = lowerAfter before u ++ c :: lower rest := by
    induction u with
    | nil =>
        intro before
        show lowerWithin before c rest ++ lowerAfter (c :: before) rest = c :: lower rest
        rw [lowerWithin_eq_self hself]
        exact congrArg (c :: ·) (lowerAfter_append_blank hc [] before rest)
    | cons d u ih =>
        intro before
        have hwithin : lowerWithin before d (u ++ c :: rest) = lowerWithin before d u := by
          rw [lowerWithin, nextIsCased_append_blank hc, lowerWithin]
        rw [List.cons_append, lowerAfter, lowerAfter, hwithin, ih, List.append_assoc]
  exact hafter []

/-- A text that ends with no white space is **white space and the trimmed text**. -/
theorem exists_gap {t : Text} (hlast : ∀ c ∈ t.getLast?, isBlank c = false) :
    ∃ gap, (∀ c ∈ gap, isBlank c = true) ∧ t = gap ++ trim t := by
  induction t with
  | nil => exact ⟨[], by simp, rfl⟩
  | cons c t ih =>
      cases hc : isBlank c with
      | true =>
          have hrest : ∀ d ∈ t.getLast?, isBlank d = false := by
            intro d hd
            refine hlast d ?_
            rw [Option.mem_def] at hd ⊢
            rw [List.getLast?_cons, hd, Option.getD_some]
          obtain ⟨gap, hgap, ht⟩ := ih hrest
          refine ⟨c :: gap, List.forall_mem_cons.mpr ⟨hc, hgap⟩, ?_⟩
          rw [trim_blank hc, List.cons_append, ← ht]
      | false =>
          have htrim : trim (c :: t) = c :: t := by
            refine (trim_eq_self_iff _).mpr ⟨fun d hd => ?_, hlast⟩
            obtain rfl : c = d := by simpa using hd
            exact hc
          exact ⟨[], by simp, by rw [List.nil_append, htrim]⟩

/-- Behind white space in a trimmed text there is **more than white space**. -/
theorem exists_gap_of_trimmed {u rest : Text} {c : Char} (h : trim (u ++ c :: rest) = u ++ c :: rest)
    (hc : isBlank c = true) :
    trim (c :: rest) ≠ [] ∧
      ∃ gap, gap ≠ [] ∧ (∀ d ∈ gap, isBlank d = true) ∧ c :: rest = gap ++ trim (c :: rest) := by
  have hlast : ∀ d ∈ (c :: rest).getLast?, isBlank d = false := by
    intro d hd
    refine ((trim_eq_self_iff _).mp h).2 d ?_
    rwa [List.getLast?_append_of_ne_nil _ (List.cons_ne_nil _ _)]
  obtain ⟨gap, hgap, hsplit⟩ := exists_gap hlast
  refine ⟨fun hnil => ?_, gap, ?_, hgap, hsplit⟩
  · have hne : c :: rest ≠ [] := List.cons_ne_nil c rest
    have hblank := (trim_eq_nil_iff _).mp hnil _ (List.getLast_mem hne)
    exact absurd (hlast _ (List.getLast?_eq_some_getLast hne)) (by simp [hblank])
  · rintro rfl
    have hself : trim (c :: rest) = c :: rest := hsplit.symm
    exact absurd (((trim_eq_self_iff _).mp hself).1 c rfl) (by simp [hc])

/-- A word **opens a line** if its letters, in whatever case, begin the line, and white space and more text follow. -/
def Opens (word line : Text) : Prop :=
  ∃ u c rest, line = u ++ c :: rest ∧ sameLetters word u = true ∧ isBlank c = true ∧ rest ≠ []

end Text

/-! ### The keyword of a line -/

/-- The keyword under a spelling is **what the spelling opens the line with**. -/
theorem keywordUnder?_eq_some_iff {line spelling keyword : Text} :
    keywordUnder? line spelling = some keyword ↔ ∃ c rest, line = keyword ++ c :: rest ∧
      Text.sameLetters spelling keyword = true ∧ isBlank c = true ∧ rest ≠ [] := by
  have htake : ∀ {u : Text} (rest : Text), Text.sameLetters spelling u = true →
      (u ++ rest).take spelling.length = u := by
    intro u rest hsame
    have hlength : spelling.length = u.length := by
      simpa using congrArg List.length (Text.sameLetters_iff_map.mp hsame)
    rw [hlength, List.take_left]
  constructor
  · intro h
    unfold keywordUnder? at h
    split at h
    · next c d rest hafter =>
      obtain ⟨u, rfl, hsame⟩ := Text.afterPrefixFold?_eq_some_iff.mp hafter
      split at h
      · next hc =>
        obtain rfl : u = keyword := by rw [← Option.some.inj h, htake _ hsame]
        exact ⟨c, d :: rest, rfl, hsame, hc, List.cons_ne_nil _ _⟩
      · exact absurd h (by simp)
    · exact absurd h (by simp)
  · rintro ⟨c, rest, rfl, hsame, hc, hrest⟩
    obtain ⟨d, rest, rfl⟩ := List.exists_cons_of_ne_nil hrest
    have hafter : Text.afterPrefixFold? spelling (keyword ++ c :: d :: rest) = some (c :: d :: rest) :=
      Text.afterPrefixFold?_eq_some_iff.mpr ⟨keyword, rfl, hsame⟩
    simp only [keywordUnder?, hafter, hc, if_true, htake _ hsame]

/-- A word **opens a line** if and only if there is a keyword under it. -/
theorem opens_iff {word line : Text} : word.Opens line ↔ (keywordUnder? line word).isSome = true := by
  simp only [Text.Opens, Option.isSome_iff_exists, keywordUnder?_eq_some_iff]

namespace Language

variable {language : Language} {keyword : Keyword} {line : Text}

/-- Of two words of a keyword **the longer one** is tried first. -/
theorem pairwise_wordsByLength : (language.wordsByLength keyword).Pairwise fun a b => b.length ≤ a.length := by
  have hsorted : (language.wordsByLength keyword).Pairwise fun a b => decide (b.length ≤ a.length) = true := by
    refine List.pairwise_mergeSort (fun a b c hab hbc => ?_) (fun a b => ?_) _
    · exact decide_eq_true ((of_decide_eq_true hbc).trans (of_decide_eq_true hab))
    · simpa using Nat.le_total b.length a.length
  exact hsorted.imp of_decide_eq_true

/-- A line that does not begin with white space is **not opened by nothing**. -/
theorem not_opens_nil (hline : ∀ c ∈ line.head?, isBlank c = false) : ¬ Text.Opens [] line := by
  rintro ⟨u, c, rest, rfl, hsame, hc, -⟩
  cases u with
  | nil => exact absurd (hline c rfl) (by simp [hc])
  | cons d u => exact absurd hsame (by simp [Text.sameLetters])

/-- A keyword with a spelling that opens such a line **has words**. -/
theorem words_ne_nil_of_opens (hline : ∀ c ∈ line.head?, isBlank c = false) {spelling : Text}
    (hspelling : spelling ∈ language.spellings keyword) (hopens : spelling.Opens line) :
    language.words keyword ≠ [] := by
  intro hnone
  have hspellings : language.spellings keyword = [[]] := by
    rw [spellings, wordsByLength, hnone, List.mergeSort_nil]
  rw [hspellings, List.mem_singleton] at hspelling
  exact not_opens_nil hline (hspelling ▸ hopens)

/-- The keyword of a line is looked for **at its beginning**, if no white space stands there. -/
theorem stepKeyword?_of_head (hline : ∀ c ∈ line.head?, isBlank c = false) (spellings : List Text) :
    stepKeyword? spellings line = spellings.findSome? (keywordUnder? line) := by
  have htrim : Text.trimLeft line = line := by
    cases line with
    | nil => rfl
    | cons c line => exact Text.trimLeft_ink (hline c rfl) line
  rw [stepKeyword?_eq, htrim]

/-- A line without a keyword is opened by **none of its words**. -/
theorem not_opens_of_stepKeyword?_eq_none (hline : ∀ c ∈ line.head?, isBlank c = false)
    (h : stepKeyword? (language.spellings keyword) line = none) {word : Text}
    (hword : word ∈ language.words keyword) : ¬ word.Opens line := by
  rw [stepKeyword?_of_head hline, List.findSome?_eq_none_iff] at h
  have hspelling : word ∈ language.spellings keyword := (mem_spellings (List.ne_nil_of_mem hword)).mpr hword
  rw [opens_iff, h word hspelling]
  exact Bool.false_ne_true

/-- **The keyword of a line is spelled by the longest word that opens it.** -/
theorem stepKeyword?_eq_some (hline : ∀ c ∈ line.head?, isBlank c = false) {found : Text}
    (h : stepKeyword? (language.spellings keyword) line = some found) :
    ∃ word ∈ language.words keyword, keywordUnder? line word = some found ∧
      ∀ other ∈ language.words keyword, other.Opens line → other.length ≤ word.length := by
  rw [stepKeyword?_of_head hline] at h
  obtain ⟨before, word, after, hsplit, hfound, hbefore⟩ := List.findSome?_eq_some_iff.mp h
  have hspelling : word ∈ language.spellings keyword := by
    rw [hsplit]
    exact List.mem_append_right _ List.mem_cons_self
  have hne := words_ne_nil_of_opens hline hspelling (opens_iff.mpr (by rw [hfound]; rfl))
  refine ⟨word, (mem_spellings hne).mp hspelling, hfound, fun other hother hopens => ?_⟩
  have hpairwise : (language.wordsByLength keyword).Pairwise fun a b => b.length ≤ a.length := pairwise_wordsByLength
  have hmem := (mem_spellings hne).mpr hother
  rw [← spellings_eq hne, hsplit, List.pairwise_append, List.pairwise_cons] at hpairwise
  rw [hsplit, List.mem_append, List.mem_cons] at hmem
  rcases hmem with hmem | rfl | hmem
  · rw [opens_iff, hbefore other hmem] at hopens
    exact absurd hopens Bool.false_ne_true
  · exact Nat.le_refl _
  · exact hpairwise.2.1.1 other hmem

end Language

/-! ### Steps -/

/-- The keywords that **open a step**, in the order in which they are tried. -/
def openingKeywords : List Keyword := [.given, .when, .thus, .also]

/-- A step that is **opened by a keyword** of a language. -/
structure Step.Opened (language : Language) (step : Step) : Prop where
  /-- The line is the keyword, white space and the body. -/
  parts : ∃ gap, gap ≠ [] ∧ (∀ c ∈ gap, isBlank c = true) ∧ step.text = step.keyword ++ gap ++ step.body
  body : step.body ≠ [] ∧ Text.trim step.body = step.body
  /-- The keyword is spelled by the longest word that opens the line, of the first keyword that has any. -/
  keyword : ∃ before keyword after, openingKeywords = before ++ keyword :: after ∧
    (∀ earlier ∈ before, ∀ word ∈ language.words earlier, ¬ word.Opens step.text) ∧
    ∃ word ∈ language.words keyword, word.Opens step.text ∧ Text.sameLetters word step.keyword = true ∧
      ∀ other ∈ language.words keyword, other.Opens step.text → other.length ≤ word.length
  /-- The lowered line begins with the lowered keyword, so that the body is what is left without it. -/
  lowered : Text.lower step.keyword <+: Text.lower step.text ∧
    step.body = Text.trim (step.text.drop step.keyword.length)

/-- The keyword of a step is that of its line **under some word** of the first keyword that opens the line. -/
theorem Step.Follows.exists_keyword {language : Language} {last : Option StepKind} {step : Step}
    (h : step.Follows language last) :
    ∃ before keyword after, openingKeywords = before ++ keyword :: after ∧
      (∀ earlier ∈ before, stepKeyword? (language.spellings earlier) step.text = none) ∧
      stepKeyword? (language.spellings keyword) step.text = some step.keyword := by
  have hall : openingKeywords = Reading.stepKeywords.map Prod.snd ++ [.also] := rfl
  cases h with
  | @announced before after keyword hsplit hbefore hkeyword =>
      refine ⟨before.map Prod.snd, keyword, after.map Prod.snd ++ [.also], ?_, ?_, hkeyword⟩
      · rw [hall, hsplit]
        simp
      · intro earlier hearlier
        obtain ⟨entry, hentry, rfl⟩ := List.mem_map.mp hearlier
        exact hbefore entry hentry
  | continued hnone hkeyword _ =>
      refine ⟨Reading.stepKeywords.map Prod.snd, .also, [], hall, ?_, hkeyword⟩
      intro earlier hearlier
      obtain ⟨entry, hentry, rfl⟩ := List.mem_map.mp hearlier
      cases hannounced : stepKeyword? (language.spellings entry.2) step.text with
      | none => rfl
      | some word => exact absurd ⟨entry, hentry, by rw [hannounced]; rfl⟩ hnone

/-- The body of a step is what is left **without the keyword**, if white space follows it in the line. -/
theorem Step.body_eq {step : Step} {c : Char} {rest : Text} (hne : step.keyword ≠ [])
    (htext : step.text = step.keyword ++ c :: rest) (hc : isBlank c = true) :
    Text.lower step.keyword <+: Text.lower step.text ∧
      step.body = Text.trim (step.text.drop step.keyword.length) := by
  have hlowered : Text.lower step.keyword <+: Text.lower step.text := by
    rw [htext, Text.lower_append_blank step.keyword hc rest]
    exact List.prefix_append _ _
  refine ⟨hlowered, ?_⟩
  have htest : (!step.keyword.isEmpty && (Text.lower step.keyword).isPrefixOf (Text.lower step.text)) = true := by
    simp [hne, List.isPrefixOf_iff_prefix.mpr hlowered]
  simp only [Step.body, htest, if_true]

/-- **A step on a trimmed line** is opened by its keyword. -/
theorem Step.Follows.opened {language : Language} {last : Option StepKind} {step : Step}
    (h : step.Follows language last) (htrim : Text.trim step.text = step.text) : step.Opened language := by
  obtain ⟨hhead, hlast⟩ := (Text.trim_eq_self_iff _).mp htrim
  obtain ⟨before, keyword, after, hsplit, hbefore, hkeyword⟩ := h.exists_keyword
  obtain ⟨word, hword, hunder, hlongest⟩ := Language.stepKeyword?_eq_some hhead hkeyword
  obtain ⟨c, rest, htext, hsame, hc, hrest⟩ := keywordUnder?_eq_some_iff.mp hunder
  have hopens : word.Opens step.text := ⟨step.keyword, c, rest, htext, hsame, hc, hrest⟩
  have hne : step.keyword ≠ [] := by
    intro hnil
    rw [hnil, List.nil_append] at htext
    exact absurd (hhead c (by rw [htext]; rfl)) (by simp [hc])
  obtain ⟨hlowered, hbody⟩ := Step.body_eq hne htext hc
  have hbehind : step.body = Text.trim (c :: rest) := by rw [hbody, htext, List.drop_left]
  obtain ⟨hmore, gap, hgapNe, hgap, hbehindGap⟩ := Text.exists_gap_of_trimmed (htext ▸ htrim) hc
  refine ⟨⟨gap, hgapNe, hgap, ?_⟩, ⟨hbehind ▸ hmore, by rw [hbehind, Text.trim_trim]⟩, ?_, hlowered, hbody⟩
  · rw [List.append_assoc, hbehind, ← hbehindGap, htext]
  · refine ⟨before, keyword, after, hsplit, fun earlier hearlier other hother => ?_,
      word, hword, hopens, hsame, hlongest⟩
    exact Language.not_opens_of_stepKeyword?_eq_none hhead (hbefore earlier hearlier) hother

/-- The steps that paragraphs tell **are paragraphs** of their own. -/
theorem ScenariosTold.mem_step {ps : List Paragraph} {scenarios : List Scenario} (h : ScenariosTold ps scenarios) :
    ∀ scenario ∈ scenarios, ∀ step ∈ scenario.steps, ∃ block, Paragraph.step step block ∈ ps := by
  have hkept : ∀ {ps : List Paragraph} {p : Paragraph} {step : Step},
      (∃ block, Paragraph.step step block ∈ ps) → ∃ block, Paragraph.step step block ∈ ps ++ [p] :=
    fun ⟨block, hmem⟩ => ⟨block, List.mem_append_left _ hmem⟩
  induction h with
  | nil => simp
  | opened _ ih =>
      refine List.forall_mem_append.mpr ⟨fun scenario hmem step hstep => ?_, by simp⟩
      exact hkept (ih scenario hmem step hstep)
  | @step ps scenarios latest last block _ ih =>
      obtain ⟨hearlier, hlatest⟩ := List.forall_mem_append.mp ih
      refine List.forall_mem_append.mpr ⟨fun scenario hmem step hstep => ?_,
        List.forall_mem_singleton.mpr (List.forall_mem_append.mpr ⟨fun step hstep => ?_, ?_⟩)⟩
      · exact hkept (hearlier scenario hmem step hstep)
      · exact hkept (hlatest latest (List.mem_singleton_self _) step hstep)
      · exact List.forall_mem_singleton.mpr ⟨block, List.mem_append_right _ (List.mem_singleton_self _)⟩
  | other _ _ ih => exact fun scenario hmem step hstep => hkept (ih scenario hmem step hstep)

/-- **The keyword and the body of every step that is read.** In the language of the text each step is opened by a
keyword: its line is the keyword as it is recognised, white space and the body, and the body is what is left when the
keyword is looked for again in lower case. -/
theorem Document.ofText_bodies {table : LanguageTable} {text : Text} {document : Document}
    (h : Document.ofText table text = .ok document) :
    ∃ language, table.language (languageCode text table.default) = .ok language ∧
      ∀ scenario ∈ document.scenarios, ∀ step ∈ scenario.steps, step.Opened language := by
  obtain ⟨language, hlanguage, hlines⟩ := Document.exists_ofLines h
  obtain ⟨r, hread, rfl⟩ := Document.exists_reading hlines
  obtain ⟨ps, hcut, hafter⟩ := Reading.exists_cut Reading.After.start hread
  refine ⟨language, hlanguage, fun scenario hscenario step hstep => ?_⟩
  -- the line of the step is significant, and so it is trimmed
  obtain ⟨block, hparagraph⟩ := hafter.scenarios.mem_step scenario hscenario step hstep
  have hline : step.text ∈ significantLines text := by
    rw [← hcut.flatMap_lines]
    exact List.mem_flatMap.mpr ⟨_, hparagraph, List.mem_cons_self⟩
  obtain ⟨before, after, hsteps⟩ := List.append_of_mem hstep
  exact (hafter.follows scenario hscenario before step after hsteps).opened (mem_significantLines hline).1.trimmed

/-- A language with a keyword of two words, **the last letter of which is a sigma**. -/
def greekTable : LanguageTable :=
  ⟨[vocabulary "el" "Θέμα" "Σενάριο" "Για τους" "Όταν" "Τότε" "Και"], "el", by decide⟩

/-- A step with its keyword **in capitals**. -/
def friendsText : Text := "Σενάριο: Ένα\nΓΙΑ ΤΟΥΣ \tφίλους"

/-- What the text **is read as**. -/
def friends : Document := ⟨"el", none, [⟨"Ένα", [⟨.context, "ΓΙΑ ΤΟΥΣ \tφίλους", "ΓΙΑ ΤΟΥΣ", none⟩]⟩]⟩

/-- The step is opened by its keyword, **with a capital sigma at the end**, and white space of two characters. -/
theorem Document.ofText_bodies_friends :
    Document.ofText greekTable friendsText = .ok friends ∧
      (∃ language, greekTable.language (languageCode friendsText greekTable.default) = .ok language ∧
        ∀ scenario ∈ friends.scenarios, ∀ step ∈ scenario.steps, step.Opened language) ∧
      ∀ scenario ∈ friends.scenarios, ∀ step ∈ scenario.steps, step.body = "φίλους" := by
  have hread : Document.ofText greekTable friendsText = .ok friends := eq_ok_of_toOption (by decide +kernel)
  exact ⟨hread, Document.ofText_bodies hread, by decide +kernel⟩

end PlainSpec
