import PlainSpec.Language.BuiltIn
import PlainSpec.Proofs.LetterCase
import PlainSpec.Proofs.WhiteSpace
import PlainSpec.Specification.Lines

/-!
# Written Lines

A line that opens a feature or a scenario is a word of the keyword, a colon and the title. A step line is
a word of the keyword, a blank and the body. This module shows that such lines are read as what they were
written for, and not as anything else.

That no line is taken for another one is a property of the vocabulary. A word **misses** a line if the
line does not begin with it, or goes on behind it as no line of that keyword does: in the French
vocabulary `Et` begins a line with `Etant donné`, but the letter behind it shows that it is not the
keyword. In a **distinct** vocabulary every word misses the lines of all other words. The built-in
vocabularies are distinct, which is decided by going through all pairs of their words.

## Main results

* `Language.IsBuiltIn.distinct`: the built-in vocabularies are distinct.
* `title?_titleLine`, `title?_of_ne`: which lines open a feature or a scenario.
* `stepKeyword?_stepLine`, `stepKeyword?_of_ne`: which lines are steps of a keyword.
* `namedHeader?_headerLine`: how a named header is read.
* `languageCode_append`: the language of a text that begins with a directive.
-/

namespace PlainSpec

/-! ### Words that miss a line -/

/-- Whether a word **misses** a line that begins with the given text: the two differ, up to case, at a
place that both have, or the text goes on behind the word with something else than white space, a digit or
a colon. -/
def Text.misses : Text → Text → Bool
  | [], c :: _ => !isBlank c && !isDecimalDigit c && c != ':'
  | a :: as, b :: bs => !sameLetter a b || Text.misses as bs
  | _, [] => false

/-- Behind a word that misses a line there is **nothing that can stand there**. -/
theorem Text.afterPrefixFold?_of_misses {s w : Text} (h : Text.misses s w = true) {rest after : Text}
    (hafter : Text.afterPrefixFold? s (w ++ rest) = some after) :
    ∃ c u, after = c :: u ∧ isBlank c = false ∧ isDecimalDigit c = false ∧ c ≠ ':' := by
  induction s generalizing w with
  | nil =>
      cases w with
      | nil => exact absurd h (by simp [Text.misses])
      | cons c w =>
          rw [Text.afterPrefixFold?, Option.some.injEq] at hafter
          simp only [Text.misses, Bool.and_eq_true, Bool.not_eq_true', bne_iff_ne] at h
          exact ⟨c, w ++ rest, hafter.symm, h.1.1, h.1.2, h.2⟩
  | cons a s ih =>
      cases w with
      | nil => exact absurd h (by simp [Text.misses])
      | cons b w =>
          rw [List.cons_append, Text.afterPrefixFold?] at hafter
          split at hafter
          · next hsame =>
            rw [Text.misses, hsame, Bool.not_true, Bool.false_or] at h
            exact ih h hafter
          · exact absurd hafter (by simp)

/-- No **number and colon** stand where another character does. -/
theorem afterNumber?_eq_none {c : Char} {u : Text} (hblank : isBlank c = false)
    (hdigit : isDecimalDigit c = false) (hcolon : c ≠ ':') : afterNumber? (c :: u) = none := by
  have hdrop : (c :: u).dropWhile isDecimalDigit = c :: u := by simp [hdigit]
  rw [afterNumber?, Text.trimLeft_ink hblank, hdrop, Text.trimLeft_ink hblank]
  split
  · next h => exact absurd (List.cons.inj h).1 hcolon
  · rfl

/-! ### Distinct vocabularies -/

/-- The character **behind a word** of a keyword. -/
def Keyword.mark : Keyword → Char
  | .feature | .scenario => ':'
  | .given | .when | .thus | .also => ' '

/-- Every keyword is **among all** keywords. -/
theorem Keyword.mem_all (keyword : Keyword) : keyword ∈ Keyword.all := by
  cases keyword <;> decide

/-- Whether a character can stand **in front of a line of words**: it is no white space and begins no
comment, named header, form line or grid line. -/
def opensWords (c : Char) : Bool := !isBlank c && !List.contains ['#', '@', ':', '|'] c

/-- A vocabulary is **distinct** if every keyword has a word, and no word can be taken for another one:
not at the beginning of a line, nor in a named header. -/
def Language.Distinct (language : Language) : Prop :=
  ∀ keyword ∈ Keyword.all, language.words keyword ≠ [] ∧ ∀ word ∈ language.words keyword,
    word.head?.any opensWords = true ∧ Text.Unbroken word ∧ Text.misses word "@" = true ∧
      ∀ other ∈ Keyword.all, ∀ s ∈ language.words other,
        (other = keyword ∧ s = word) ∨ Text.misses s (word ++ [keyword.mark]) = true

instance (language : Language) : Decidable language.Distinct :=
  inferInstanceAs (Decidable (∀ _ ∈ Keyword.all, _))

/-- A **built-in** language. -/
def Language.IsBuiltIn (language : Language) : Prop :=
  language.code ∈ builtInVocabularies.map Prod.fst ∧
    builtInLanguages.language language.code = .ok language

/-- Every built-in vocabulary is distinct, and its code can **stand in a directive**. -/
theorem builtIn_distinct :
    builtInVocabularies.all (fun entry =>
      match builtInLanguages.language entry.1 with
      | .ok language => decide (language.Distinct ∧ entry.1 ≠ [] ∧
          entry.1.all (fun c => !isBlank c && !isLineBreak c) = true)
      | .error _ => false) = true := by
  decide +kernel

namespace Language

variable {language : Language} {keyword : Keyword} {word : Text}

/-- What has been **decided** of a built-in language. -/
theorem IsBuiltIn.checked (h : language.IsBuiltIn) :
    language.Distinct ∧ language.code ≠ [] ∧
      ∀ c ∈ language.code, isBlank c = false ∧ isLineBreak c = false := by
  obtain ⟨hmem, hlanguage⟩ := h
  obtain ⟨entry, hentry, hcode⟩ := List.mem_map.mp hmem
  have hcheck := List.all_eq_true.mp builtIn_distinct entry hentry
  rw [hcode, hlanguage] at hcheck
  obtain ⟨hdistinct, hne, hall⟩ := of_decide_eq_true hcheck
  refine ⟨hdistinct, hne, fun c hc => ?_⟩
  simpa using List.all_eq_true.mp hall c hc

/-- The spellings of a keyword with a word are its words, **longest first**. -/
theorem spellings_eq (hne : language.words keyword ≠ []) :
    language.spellings keyword = language.wordsByLength keyword := by
  have hlength : language.wordsByLength keyword ≠ [] := by
    rw [wordsByLength, ← List.length_pos_iff, List.length_mergeSort]
    exact List.length_pos_iff.mpr hne
  unfold spellings
  split
  · next h => exact absurd h hlength
  · rfl

/-- The spellings of a keyword with a word are **its words**. -/
theorem mem_spellings (hne : language.words keyword ≠ []) {s : Text} :
    s ∈ language.spellings keyword ↔ s ∈ language.words keyword := by
  rw [spellings_eq hne, wordsByLength, List.mem_mergeSort]

/-- In a distinct vocabulary a word **misses the lines** of all other words. -/
theorem Distinct.misses (h : language.Distinct) (hword : word ∈ language.words keyword)
    {other : Keyword} {s : Text} (hs : s ∈ language.spellings other)
    (hne : ¬(other = keyword ∧ s = word)) : Text.misses s (word ++ [keyword.mark]) = true := by
  obtain ⟨-, hwords⟩ := h keyword keyword.mem_all
  obtain ⟨-, -, -, hmisses⟩ := hwords word hword
  obtain ⟨hother, -⟩ := h other other.mem_all
  exact (hmisses other other.mem_all s ((mem_spellings hother).mp hs)).resolve_left hne

/-- In a distinct vocabulary a line of a word **begins as a line of words does**. -/
theorem Distinct.exists_ink (h : language.Distinct) (hword : word ∈ language.words keyword) :
    ∃ c u, word = c :: u ∧ opensWords c = true := by
  obtain ⟨-, hwords⟩ := h keyword keyword.mem_all
  obtain ⟨hhead, -⟩ := hwords word hword
  obtain ⟨c, hc, hopens⟩ := (Option.any_eq_true _ _).mp hhead
  obtain ⟨u, rfl⟩ := List.head?_eq_some_iff.mp hc
  exact ⟨c, u, rfl, hopens⟩

/-- In a distinct vocabulary a word is a **spelling** of its keyword. -/
theorem Distinct.mem_spellings (h : language.Distinct) (hword : word ∈ language.words keyword) :
    word ∈ language.spellings keyword :=
  (Language.mem_spellings (h keyword keyword.mem_all).1).mpr hword

/-- In a distinct vocabulary no line ends **in a word**. -/
theorem Distinct.unbroken (h : language.Distinct) (hword : word ∈ language.words keyword) :
    Text.Unbroken word :=
  (((h keyword keyword.mem_all).2 word hword).2).1

end Language

/-- A character that opens a line of words is **no white space**. -/
theorem isBlank_of_opensWords {c : Char} (h : opensWords c = true) : isBlank c = false := by
  simp only [opensWords, Bool.and_eq_true, Bool.not_eq_true'] at h
  exact h.1

/-- Among choices the one that yields something is **found**, if all others yield nothing. -/
theorem findSome?_eq_of_unique {α β : Type} {f : α → Option β} {choices : List α} {a : α} {b : β}
    (ha : a ∈ choices) (hb : f a = some b) (hothers : ∀ x ∈ choices, x ≠ a → f x = none) :
    choices.findSome? f = some b := by
  induction choices with
  | nil => exact absurd ha List.not_mem_nil
  | cons x choices ih =>
      rw [List.findSome?_cons]
      by_cases hx : x = a
      · rw [hx, hb]
      · rw [hothers x List.mem_cons_self hx]
        exact ih ((List.mem_cons.mp ha).resolve_left (Ne.symm hx)) fun y hy =>
          hothers y (List.mem_cons_of_mem _ hy)

/-! ### Titles -/

/-- The line of a **title** under a word. -/
def titleLine (word title : Text) : Text := word ++ ": " ++ title

/-- The title in a line that begins with **one spelling** of a keyword. -/
def titleUnder? (line spelling : Text) : Option Text := do
  let rest ← Text.afterPrefixFold? spelling (Text.trimLeft line)
  let rest ← afterNumber? rest
  return Text.trim rest

/-- The title of a line is the one under **some spelling**. -/
theorem title?_eq (spellings : List Text) (line : Text) :
    title? spellings line = spellings.findSome? (titleUnder? line) := rfl

/-- A line has **no title** under a spelling that misses it. -/
theorem titleUnder?_eq_none {w : Text} (hw : ∃ c u, w = c :: u ∧ isBlank c = false) {s : Text}
    (h : Text.misses s w = true) (rest : Text) : titleUnder? (w ++ rest) s = none := by
  obtain ⟨c, u, rfl, hc⟩ := hw
  rw [titleUnder?, List.cons_append, Text.trimLeft_ink hc, ← List.cons_append]
  cases hafter : Text.afterPrefixFold? s (c :: u ++ rest) with
  | none => rfl
  | some after =>
      obtain ⟨d, v, rfl, hblank, hdigit, hcolon⟩ := Text.afterPrefixFold?_of_misses h hafter
      rw [Option.bind_eq_bind, Option.bind_some, afterNumber?_eq_none hblank hdigit hcolon]
      rfl

/-- A line has **no title** if all spellings miss it. -/
theorem title?_eq_none {w : Text} (hw : ∃ c u, w = c :: u ∧ isBlank c = false) {spellings : List Text}
    (h : ∀ s ∈ spellings, Text.misses s w = true) (rest : Text) :
    title? spellings (w ++ rest) = none := by
  rw [title?_eq, List.findSome?_eq_none_iff]
  exact fun s hs => titleUnder?_eq_none hw (h s hs) rest

/-- The line of a title is a word, **its mark** and more. -/
theorem titleLine_eq {keyword : Keyword} (hmark : keyword.mark = ':') (word title : Text) :
    titleLine word title = (word ++ [keyword.mark]) ++ ' ' :: title := by
  simp [titleLine, hmark]

/-- **The line of a title is read as the title.** -/
theorem title?_titleLine {language : Language} (h : language.Distinct) {keyword : Keyword}
    (hmark : keyword.mark = ':') {word : Text} (hword : word ∈ language.words keyword) {title : Text}
    (htitle : Text.trim title = title) :
    title? (language.spellings keyword) (titleLine word title) = some title := by
  have hline := titleLine_eq hmark word title
  obtain ⟨c, u, hcons, hopens⟩ := h.exists_ink hword
  have hc := isBlank_of_opensWords hopens
  rw [title?_eq]
  refine findSome?_eq_of_unique (h.mem_spellings hword) ?_ fun s hs hne => ?_
  · have htrim : Text.trimLeft (word ++ ':' :: ' ' :: title) = word ++ ':' :: ' ' :: title := by
      rw [hcons, List.cons_append, Text.trimLeft_ink hc]
    rw [hline, hmark, titleUnder?, List.append_assoc, List.singleton_append, htrim,
      Text.afterPrefixFold?_append, Option.bind_eq_bind, Option.bind_some]
    have hnumber : afterNumber? (':' :: ' ' :: title) = some (' ' :: title) := rfl
    rw [hnumber, Option.bind_some, Text.trim_blank rfl, htitle]
    rfl
  · rw [hline]
    refine titleUnder?_eq_none ⟨c, u ++ [keyword.mark], by rw [hcons, List.cons_append], hc⟩ ?_ _
    exact h.misses hword hs fun hsame => hne hsame.2

/-- A line of one keyword is **no title** of another one. -/
theorem title?_of_ne {language : Language} (h : language.Distinct) {keyword other : Keyword}
    (hne : other ≠ keyword) {word : Text} (hword : word ∈ language.words keyword) (rest : Text) :
    title? (language.spellings other) ((word ++ [keyword.mark]) ++ rest) = none := by
  obtain ⟨c, u, hcons, hopens⟩ := h.exists_ink hword
  refine title?_eq_none ⟨c, u ++ [keyword.mark], ?_, isBlank_of_opensWords hopens⟩ (fun s hs => ?_) rest
  · rw [hcons, List.cons_append]
  · exact h.misses hword hs fun hsame => hne hsame.1

/-! ### Steps -/

/-- The line of a **step** that begins with a word. -/
def stepLine (word body : Text) : Text := word ++ " " ++ body

/-- The keyword as it stands in a line that begins with **one spelling** of it. -/
def keywordUnder? (line spelling : Text) : Option Text :=
  match Text.afterPrefixFold? spelling line with
  | some (c :: _ :: _) => if isBlank c then some (line.take spelling.length) else none
  | _ => none

/-- The keyword of a line is the one under **some spelling**. -/
theorem stepKeyword?_eq (spellings : List Text) (line : Text) :
    stepKeyword? spellings line = spellings.findSome? (keywordUnder? (Text.trimLeft line)) := rfl

/-- A line has **no keyword** under a spelling that misses it. -/
theorem keywordUnder?_eq_none {s w : Text} (h : Text.misses s w = true) (rest : Text) :
    keywordUnder? (w ++ rest) s = none := by
  unfold keywordUnder?
  split
  · next c d u hafter =>
    obtain ⟨c', v, hcons, hblank, -, -⟩ := Text.afterPrefixFold?_of_misses h hafter
    obtain ⟨rfl, -⟩ := List.cons.inj hcons
    rw [hblank]
    rfl
  · rfl

/-- A line has **no keyword** if all spellings miss it. -/
theorem stepKeyword?_eq_none {w : Text} (hw : ∃ c u, w = c :: u ∧ isBlank c = false)
    {spellings : List Text} (h : ∀ s ∈ spellings, Text.misses s w = true) (rest : Text) :
    stepKeyword? spellings (w ++ rest) = none := by
  obtain ⟨c, u, rfl, hc⟩ := hw
  rw [stepKeyword?_eq, List.cons_append, Text.trimLeft_ink hc, ← List.cons_append,
    List.findSome?_eq_none_iff]
  exact fun s hs => keywordUnder?_eq_none (h s hs) rest

/-- A step line is a word, **its mark** and the body. -/
theorem stepLine_eq {keyword : Keyword} (hmark : keyword.mark = ' ') (word body : Text) :
    stepLine word body = (word ++ [keyword.mark]) ++ body := by
  simp [stepLine, hmark]

/-- The line of a step has **no word** of another keyword than its own. -/
theorem stepKeyword?_of_ne {language : Language} (h : language.Distinct) {keyword other : Keyword}
    (hmark : keyword.mark = ' ') (hne : other ≠ keyword) {word : Text}
    (hword : word ∈ language.words keyword) (body : Text) :
    stepKeyword? (language.spellings other) (stepLine word body) = none := by
  obtain ⟨c, u, hcons, hopens⟩ := h.exists_ink hword
  rw [stepLine_eq hmark]
  refine stepKeyword?_eq_none ⟨c, u ++ [keyword.mark], ?_, isBlank_of_opensWords hopens⟩
    (fun s hs => ?_) body
  · rw [hcons, List.cons_append]
  · exact h.misses hword hs fun hsame => hne hsame.1

/-- **The keyword of a step line is the word that it begins with.** -/
theorem stepKeyword?_stepLine {language : Language} (h : language.Distinct) {keyword : Keyword}
    (hmark : keyword.mark = ' ') {word : Text} (hword : word ∈ language.words keyword) {body : Text}
    (hbody : body ≠ []) :
    stepKeyword? (language.spellings keyword) (stepLine word body) = some word := by
  have hline := stepLine_eq hmark word body
  obtain ⟨c, u, hcons, hopens⟩ := h.exists_ink hword
  have htrim : Text.trimLeft (stepLine word body) = stepLine word body := by
    rw [stepLine, hcons]
    exact Text.trimLeft_ink (isBlank_of_opensWords hopens) _
  obtain ⟨d, v, rfl⟩ := List.exists_cons_of_ne_nil hbody
  rw [stepKeyword?_eq, htrim]
  refine findSome?_eq_of_unique (h.mem_spellings hword) ?_ fun s hs hne => ?_
  · have hafter : Text.afterPrefixFold? word (stepLine word (d :: v)) = some (' ' :: d :: v) := by
      rw [hline, hmark, List.append_assoc]
      exact Text.afterPrefixFold?_append word _
    have htake : (stepLine word (d :: v)).take word.length = word := by
      rw [hline, List.append_assoc, List.take_left]
    simp only [keywordUnder?, hafter, htake]
    rfl
  · rw [hline]
    exact keywordUnder?_eq_none (h.misses hword hs fun hsame => hne hsame.2) _

/-! ### Named headers -/

/-- The line of a **named header**. -/
def headerLine (header : Text × Text) : Text := "@" ++ header.1 ++ ": " ++ header.2

/-- A named header that can be **written on a line**: its name is in lower case and made of word characters
and hyphens. -/
structure TidyHeader (header : Text × Text) : Prop where
  nonempty : header.1 ≠ []
  letters : header.1.all (fun c => isWordChar c || c == '-') = true
  lower : Text.lower header.1 = header.1
  name : Text.Tidy header.1
  value : Text.Tidy header.2

/-- The line of a named header, **trimmed**. -/
theorem trim_headerLine {header : Text × Text} (hvalue : Text.Tidy header.2) :
    Text.trim (headerLine header) = '@' :: (header.1 ++ ':' :: Text.behindColon header.2) := by
  have hline : headerLine header = '@' :: (header.1 ++ ':' :: ' ' :: header.2) := by
    simp [headerLine]
  rw [hline, Text.trim_append_value rfl _ hvalue.trimmed]

/-- The name of a header **goes as far** as there are word characters and hyphens. -/
theorem namedHeader?_append {name after : Text} (hne : name ≠ [])
    (hletters : name.all (fun c => isWordChar c || c == '-') = true)
    (hafter : ∀ c ∈ after.head?, (isWordChar c || c == '-') = false) :
    namedHeader? ('@' :: (name ++ after)) =
      if after = [] then some (Text.lower name, [])
      else (afterColon? after).map fun value => (Text.lower name, Text.trim value) := by
  have hname : (name ++ after).takeWhile (fun c => isWordChar c || c == '-') = name := by
    rw [List.takeWhile_append_of_pos (List.all_eq_true.mp hletters)]
    cases after with
    | nil => rw [List.takeWhile_nil, List.append_nil]
    | cons c after => rw [List.takeWhile_cons_of_neg (by simp [hafter c rfl]), List.append_nil]
  have hdrop : (name ++ after).drop name.length = after := List.drop_left
  simp only [namedHeader?, hname, hdrop, List.isEmpty_iff, if_neg hne]

/-- **The line of a named header is read as the header.** -/
theorem namedHeader?_headerLine {header : Text × Text} (h : TidyHeader header) :
    namedHeader? (Text.trim (headerLine header)) = some header := by
  have hcolon : ∀ after : Text, afterColon? (':' :: after) = some (Text.trimLeft after) := fun _ => rfl
  have hend : ∀ c ∈ (':' :: Text.behindColon header.2).head?, (isWordChar c || c == '-') = false := by
    intro c hc
    obtain rfl : ':' = c := Option.some.inj hc
    decide
  rw [trim_headerLine h.value, namedHeader?_append h.nonempty h.letters hend,
    if_neg (List.cons_ne_nil _ _), hcolon, Option.map_some, h.lower, Text.trim_trimLeft,
    Text.trim_behindColon h.value.trimmed]

/-! ### Directives -/

/-- The line that **names the language** of a text. -/
def directiveLine (code : Text) : Text := "# language: " ++ code

/-- The language of a text that **begins with a directive**, whatever comes in the lines after it. -/
theorem languageCode_append {code : Text} (hne : code ≠ []) (hcode : ∀ c ∈ code, isBlank c = false)
    {rest : Text} (hrest : ∀ c ∈ rest.head?, isBlank c = true) (default : Text) :
    languageCode (directiveLine code ++ rest) default = code := by
  obtain ⟨c, u, rfl⟩ := List.exists_cons_of_ne_nil hne
  have hword : Text.afterPrefixFold? "language" ("language" ++ ':' :: ' ' :: (c :: u ++ rest)) =
      some (':' :: ' ' :: (c :: u ++ rest)) := Text.afterPrefixFold?_append _ _
  have hcolon : afterColon? (':' :: ' ' :: (c :: u ++ rest)) = some (c :: u ++ rest) := by
    have htrim : Text.trimLeft (' ' :: (c :: u ++ rest)) = c :: u ++ rest := by
      rw [Text.trimLeft_blank rfl]
      exact Text.trimLeft_ink (hcode c List.mem_cons_self) _
    exact congrArg some htrim
  have htake : (c :: u ++ rest).takeWhile (fun c => !isBlank c) = c :: u := by
    rw [List.takeWhile_append_of_pos fun d hd => by simp [hcode d hd]]
    cases rest with
    | nil => rw [List.takeWhile_nil, List.append_nil]
    | cons d rest => rw [List.takeWhile_cons_of_neg (by simp [hrest d rfl]), List.append_nil]
  have hdirective : directiveCode? (directiveLine (c :: u) ++ rest) = some (c :: u) := by
    have hline : directiveLine (c :: u) ++ rest =
        '#' :: ' ' :: ("language" ++ ':' :: ' ' :: (c :: u ++ rest)) := rfl
    have htrim : Text.trimLeft ("language" ++ ':' :: ' ' :: (c :: u ++ rest)) =
        "language" ++ ':' :: ' ' :: (c :: u ++ rest) := Text.trimLeft_ink rfl _
    rw [hline, directiveCode?, Text.trimLeft_blank rfl, htrim, hword, Option.bind_eq_bind,
      Option.bind_some, hcolon, Option.bind_some, htake]
  have hfirst : directive? (directiveLine (c :: u) ++ rest) = some (c :: u) := by
    have hline : directiveLine (c :: u) ++ rest = '#' :: ((" language: " ++ c :: u) ++ rest) := rfl
    rw [hline] at hdirective ⊢
    rw [directive?, hdirective]
  rw [languageCode, hfirst, Option.getD_some]

end PlainSpec
