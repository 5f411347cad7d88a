import Mathlib.Logic.Relation
import PlainSpec.Proofs.Directives
import PlainSpec.Proofs.LineKinds
import PlainSpec.Proofs.NamedPhrases
import PlainSpec.Specification.Files

/-!
# Layout

Blank lines, comments, indentation and the marks that end lines are layout. They change neither the significant
lines of a text nor, comments apart, the language that it names, and so they do not change what the text is read
as. Every text has a plain layout: a directive and, under it, the significant lines and nothing else.

A carriage return and a line feed are one line break. Taking them as two makes one more empty line, which counts
for nothing: the significant lines are those of the text cut at every single character that ends a line
(`significantLines_eq`). Then a break anywhere cuts the significant lines in two (`significantLines_break`), and
white space at the ends of a text can be left out.

## Main results

* `significantLines_break`: the significant lines in front of a line break and behind it.
* `LayoutEdit`: what changes layout only.
* `Document.ofText_layout`: layout never changes what a text is read as.
-/

namespace PlainSpec

/-- A character that ends a line is **white space**. -/
theorem Text.isBlank_of_isLineBreak {c : Char} (hc : isLineBreak c = true) : isBlank c = true :=
  List.all_eq_true.mp (by decide +kernel : (rangeChars [(0x0A, 0x0D), (0x1C, 0x1E), (0x85, 0x85),
    (0x2028, 0x2029)]).all isBlank = true) c (mem_rangeChars hc)

/-! ### Significant lines -/

/-- The lines among some parts that are **significant**, trimmed. -/
def significant (parts : List Text) : List Text :=
  (parts.map Text.trim).filter fun line => !line.isEmpty && line.head? != some '#'

/-- What is significant of **two lists** of parts. -/
@[simp] theorem significant_append (parts others : List Text) :
    significant (parts ++ others) = significant parts ++ significant others := by
  rw [significant, List.map_append, List.filter_append]
  rfl

/-- An empty part is **not significant**. -/
@[simp] theorem significant_nil_cons (parts : List Text) : significant ([] :: parts) = significant parts := rfl

/-- A part counts **as it is trimmed**. -/
theorem significant_cons_congr {part other : Text} (h : Text.trim part = Text.trim other)
    (parts : List Text) : significant (part :: parts) = significant (other :: parts) := by
  rw [significant, significant, List.map_cons, List.map_cons, h]

/-- The lines of a text are its parts, but for **empty ones**. -/
theorem exists_splitOn (t : Text) :
    ∃ first more others, Text.splitOn isLineBreak t = first :: more ∧
      significant more = significant others ∧
      (Text.lines t = first :: others ∨ Text.lines t = [] ∧ first = [] ∧ others = []) := by
  -- behind a line break all parts and lines count alike
  have hwhole : ∀ {rest first : Text} {more others : List Text},
      Text.splitOn isLineBreak rest = first :: more → significant more = significant others →
      (Text.lines rest = first :: others ∨ Text.lines rest = [] ∧ first = [] ∧ others = []) →
      significant (Text.splitOn isLineBreak rest) = significant (Text.lines rest) := by
    rintro rest first more others hsplit hmore (hlines | ⟨hlines, rfl, rfl⟩)
    · rw [hsplit, hlines, ← List.singleton_append, significant_append, hmore, ← significant_append,
        List.singleton_append]
    · rw [hsplit, hlines, significant_nil_cons, hmore]
  induction t using Text.lines.induct with
  | case1 => exact ⟨[], [], [], rfl, rfl, .inr ⟨rfl, rfl, rfl⟩⟩
  | case2 rest ih =>
      obtain ⟨first, more, others, hsplit, hmore, hlines⟩ := ih
      refine ⟨[], [] :: Text.splitOn isLineBreak rest, Text.lines rest, rfl, ?_, .inl rfl⟩
      rw [significant_nil_cons, hwhole hsplit hmore hlines]
  | case3 c rest hreturn hc ih =>
      obtain ⟨first, more, others, hsplit, hmore, hlines⟩ := ih
      refine ⟨[], Text.splitOn isLineBreak rest, Text.lines rest, ?_, hwhole hsplit hmore hlines, .inl ?_⟩
      · rw [Text.splitOn, if_pos hc]
      · rw [Text.lines, if_pos hc]
        exact hreturn
  | case4 c rest hreturn hc ih =>
      obtain ⟨first, more, others, hsplit, hmore, hlines⟩ := ih
      refine ⟨c :: first, more, others, ?_, hmore, .inl ?_⟩
      · rw [Text.splitOn, if_neg hc, hsplit, Text.consHead]
      · rw [Text.lines_cons (by simpa using hc)]
        rcases hlines with hlines | ⟨hlines, rfl, rfl⟩ <;> rw [hlines, Text.consHead]

/-- **The significant lines are the significant parts** between single characters that end lines. -/
theorem significantLines_eq (t : Text) :
    significantLines t = significant (Text.splitOn isLineBreak t) := by
  have hlines : significantLines t = significant (Text.lines t) := rfl
  obtain ⟨first, more, others, hsplit, hmore, hcases⟩ := exists_splitOn t
  rw [hlines, hsplit]
  rcases hcases with hcases | ⟨hcases, rfl, rfl⟩
  · rw [hcases, ← List.singleton_append, significant_append, ← hmore, ← significant_append,
      List.singleton_append]
  · rw [hcases, significant_nil_cons, hmore]

/-- A line break **cuts the significant lines in two**. -/
theorem significantLines_break {c : Char} (hc : isLineBreak c = true) (t rest : Text) :
    significantLines (t ++ c :: rest) = significantLines t ++ significantLines rest := by
  rw [significantLines_eq, Text.splitOn_append hc, significant_append, ← significantLines_eq,
    ← significantLines_eq]

/-- White space **in front** counts for nothing. -/
theorem significantLines_blank {s : Text} (hs : Text.Blank s) (t : Text) :
    significantLines (s ++ t) = significantLines t := by
  induction s with
  | nil => rfl
  | cons c s ih =>
      obtain ⟨hc, hs⟩ := List.forall_mem_cons.mp hs
      rw [List.cons_append, ← ih hs]
      cases hbreak : isLineBreak c with
      | true => exact significantLines_break hbreak [] (s ++ t)
      | false =>
          obtain ⟨first, more, hsplit⟩ :=
            List.exists_cons_of_ne_nil (Text.splitOn_ne_nil isLineBreak (s ++ t))
          rw [significantLines_eq, significantLines_eq, Text.splitOn, if_neg (by simp [hbreak]), hsplit,
            Text.consHead]
          exact significant_cons_congr (Text.trim_blank hc first) more

/-- White space **at the end** counts for nothing. -/
theorem significantLines_append_blank {s : Text} (hs : Text.Blank s) (t : Text) :
    significantLines (t ++ s) = significantLines t := by
  induction s generalizing t with
  | nil => rw [List.append_nil]
  | cons c s ih =>
      obtain ⟨hc, hs⟩ := List.forall_mem_cons.mp hs
      have hone : significantLines (t ++ [c]) = significantLines t := by
        cases hbreak : isLineBreak c with
        | true => rw [significantLines_break hbreak]; exact List.append_nil _
        | false =>
            obtain ⟨parts, last, hsplit, hconcat⟩ := Text.splitOn_concat hbreak t
            rw [significantLines_eq, significantLines_eq, hsplit, hconcat, significant_append,
              significant_append, significant_cons_congr (Text.trim_append_blank last hc)]
      rw [List.append_cons, ih hs, hone]

/-- Where a line begins **the significant lines are cut in two**. -/
theorem significantLines_append {before : Text} (hbefore : ∀ c ∈ before.getLast?, isLineBreak c = true)
    (rest : Text) : significantLines (before ++ rest) = significantLines before ++ significantLines rest := by
  rcases List.eq_nil_or_concat before with rfl | ⟨front, c, rfl⟩
  · rfl
  · have hc : isLineBreak c = true := hbefore c (by simp)
    rw [List.concat_eq_append, List.append_assoc, List.singleton_append, significantLines_break hc,
      significantLines_break hc]
    exact congrArg (· ++ significantLines rest) (List.append_nil _).symm

/-- A comment **counts for nothing**. -/
theorem significantLines_comment {line : Text} (hline : Text.Unbroken line)
    (hhash : (Text.trim line).head? = some '#') : significantLines line = [] := by
  rw [significantLines_eq, Text.splitOn_eq_self hline, significant]
  simp [hhash]

/-- A significant line is **tidy**, not empty and no comment. -/
theorem mem_significantLines {line t : Text} (h : line ∈ significantLines t) :
    Text.Tidy line ∧ line ≠ [] ∧ line.head? ≠ some '#' := by
  rw [significantLines_eq, significant, List.mem_filter, Bool.and_eq_true] at h
  obtain ⟨hmem, hne, hhash⟩ := h
  obtain ⟨part, hpart, rfl⟩ := List.mem_map.mp hmem
  exact ⟨⟨Text.trim_trim part, fun c hc => Text.not_of_mem_splitOn hpart c (Text.mem_of_mem_trim hc)⟩,
    by simpa using hne, by simpa using hhash⟩

/-- Significant lines that are joined are **the significant lines** again. -/
theorem significantLines_join_self (t : Text) :
    significantLines (Text.join "\n" (significantLines t)) = significantLines t := by
  have hlines : Text.lines (Text.join "\n" (significantLines t)) = significantLines t :=
    Text.lines_join fun line hline => ⟨(mem_significantLines hline).1.unbroken, (mem_significantLines hline).2.1⟩
  have htrim : (significantLines t).map Text.trim = significantLines t :=
    (List.map_congr_left fun line hline => (mem_significantLines hline).1.trimmed).trans (List.map_id _)
  rw [significantLines, hlines, htrim, List.filter_eq_self]
  intro line hline
  obtain ⟨-, hne, hhash⟩ := mem_significantLines hline
  simp [hne, hhash]

/-! ### Plain layout -/

/-- The **plain layout** of lines: a directive, and the lines below it. -/
def plainLayout (code : Text) (lines : List Text) : Text :=
  directiveLine code ++ '\n' :: Text.join "\n" lines

/-- In plain layout the significant lines of a text are **the same**. -/
theorem significantLines_plainLayout {code : Text} (hcode : ∀ c ∈ code, isBlank c = false) (t : Text) :
    significantLines (plainLayout code (significantLines t)) = significantLines t := by
  have hunbroken : Text.Unbroken (directiveLine code) := by
    refine (Text.unbroken_append _ _).mpr ⟨by decide, fun c hc => ?_⟩
    cases hbreak : isLineBreak c with
    | false => rfl
    | true => exact absurd (Text.isBlank_of_isLineBreak hbreak) (by simp [hcode c hc])
  have hhash : (Text.trim (directiveLine code)).head? = some '#' := by
    have hline : directiveLine code = '#' :: (" language: " ++ code) := rfl
    rw [hline, Text.trim, Text.trimLeft_ink rfl, Text.trimRight_cons_ink rfl, List.head?_cons]
  rw [plainLayout, significantLines_break rfl, significantLines_comment hunbroken hhash, List.nil_append,
    significantLines_join_self]

/-! ### Changes of layout -/

/-- What **ends a line**: one character, or a carriage return and a line feed. -/
def IsSeparator (s : Text) : Prop := s = "\r\n" ∨ ∃ c, isLineBreak c = true ∧ s = [c]

/-- A **change of layout**: at the beginning of a line, a blank line, a comment or an indentation is put in; at the
end of a line, white space; or one separator is put in the place of another. A comment may stand on the last line,
and must not change the language that the text names. -/
inductive LayoutEdit (default : Text) : Text → Text → Prop
  | blankLine {before line separator after : Text} :
      (∀ c ∈ before.getLast?, isLineBreak c = true) → Text.Blank line → IsSeparator separator →
      LayoutEdit default (before ++ after) (before ++ (line ++ separator ++ after))
  | comment {before line separator after : Text} :
      (∀ c ∈ before.getLast?, isLineBreak c = true) → Text.Unbroken line →
      (Text.trim line).head? = some '#' → IsSeparator separator ∨ separator = [] ∧ after = [] →
      languageCode (before ++ (line ++ separator ++ after)) default =
        languageCode (before ++ after) default →
      LayoutEdit default (before ++ after) (before ++ (line ++ separator ++ after))
  | indentation {before margin after : Text} :
      (∀ c ∈ before.getLast?, isLineBreak c = true) → Text.Blank margin →
      LayoutEdit default (before ++ after) (before ++ (margin ++ after))
  | trailing {before margin after : Text} :
      Text.Blank margin → (∀ c ∈ after.head?, isLineBreak c = true) →
      LayoutEdit default (before ++ after) (before ++ (margin ++ after))
  | separator {before separator other after : Text} :
      IsSeparator separator → IsSeparator other →
      LayoutEdit default (before ++ (separator ++ after)) (before ++ (other ++ after))

/-- A separator is **white space** and ends a line. -/
theorem IsSeparator.spec {s : Text} (h : IsSeparator s) :
    Text.Blank s ∧ s ≠ [] ∧ ∀ t rest, significantLines (t ++ (s ++ rest)) =
      significantLines t ++ significantLines rest := by
  rcases h with rfl | ⟨c, hc, rfl⟩
  · have hfeed : Text.Blank ['\n'] := by simp [Text.Blank]; decide
    refine ⟨by simp [Text.Blank]; decide, by decide, fun t rest => ?_⟩
    have hsplit : t ++ (("\r\n" : Text) ++ rest) = t ++ '\r' :: (['\n'] ++ rest) := rfl
    rw [hsplit, significantLines_break rfl, significantLines_blank hfeed]
  · exact ⟨by simpa [Text.Blank] using Text.isBlank_of_isLineBreak hc, List.cons_ne_nil _ _,
      fun t rest => significantLines_break hc t rest⟩

/-- A text names the language that **its directive** names. -/
theorem languageCode_congr {text other : Text} (h : directive? other = directive? text) (default : Text) :
    languageCode other default = languageCode text default := by
  rw [languageCode, h, languageCode]

/-- White space where a line begins changes **neither the lines nor the language**. -/
theorem margin_same {before margin : Text} (hbefore : ∀ c ∈ before.getLast?, isLineBreak c = true)
    (hmargin : Text.Blank margin) (after : Text) :
    directive? (before ++ (margin ++ after)) = directive? (before ++ after) ∧
      significantLines (before ++ (margin ++ after)) = significantLines (before ++ after) := by
  refine ⟨?_, ?_⟩
  · rcases List.eq_nil_or_concat before with rfl | ⟨front, c, rfl⟩
    · exact directive?_append_blank hmargin after
    · have hc : isBlank c = true := Text.isBlank_of_isLineBreak (hbefore c (by simp))
      have hgap : Text.SpacedAlike ((c :: margin) ++ after) ([c] ++ after) :=
        .gap (by simp) (by simp) (List.forall_mem_cons.mpr ⟨hc, hmargin⟩)
          (List.forall_mem_singleton.mpr hc) (.refl after)
      rw [List.concat_eq_append, List.append_assoc, List.append_assoc]
      exact (hgap.append_left front).directive?_eq
  · rw [significantLines_append hbefore, significantLines_append hbefore, significantLines_blank hmargin]

/-- A change of layout changes **neither the language nor the significant lines**. -/
theorem LayoutEdit.same {default text other : Text} (h : LayoutEdit default text other) :
    languageCode other default = languageCode text default ∧
      significantLines other = significantLines text := by
  cases h with
  | @blankLine before line separator after hbefore hline hseparator =>
      have hblank : Text.Blank (line ++ separator) :=
        List.forall_mem_append.mpr ⟨hline, hseparator.spec.1⟩
      obtain ⟨hdirective, hlines⟩ := margin_same hbefore hblank after
      exact ⟨languageCode_congr hdirective default, hlines⟩
  | @comment before line separator after hbefore hline hhash hseparator hcode =>
      refine ⟨hcode, ?_⟩
      have hcomment := significantLines_comment hline hhash
      rw [significantLines_append hbefore, significantLines_append hbefore]
      rcases hseparator with hseparator | ⟨rfl, rfl⟩
      · rw [List.append_assoc, hseparator.spec.2.2, hcomment, List.nil_append]
      · rw [List.append_nil, List.append_nil, hcomment]
        rfl
  | indentation hbefore hmargin =>
      obtain ⟨hdirective, hlines⟩ := margin_same hbefore hmargin _
      exact ⟨languageCode_congr hdirective default, hlines⟩
  | @trailing before margin after hmargin hafter =>
      cases after with
      | nil =>
          have hends : Text.SpacedAlike (margin ++ []) [] := .ends (by simpa using hmargin) (by simp [Text.Blank])
          refine ⟨languageCode_congr (hends.append_left before).directive?_eq default, ?_⟩
          rw [List.append_nil, List.append_nil, significantLines_append_blank hmargin]
      | cons c after =>
          have hc : isLineBreak c = true := hafter c rfl
          have hblank : isBlank c = true := Text.isBlank_of_isLineBreak hc
          have hgap : Text.SpacedAlike ((margin ++ [c]) ++ after) ([c] ++ after) :=
            .gap (by simp) (by simp)
              (List.forall_mem_append.mpr ⟨hmargin, List.forall_mem_singleton.mpr hblank⟩)
              (List.forall_mem_singleton.mpr hblank) (.refl after)
          rw [List.append_assoc] at hgap
          refine ⟨languageCode_congr (hgap.append_left before).directive?_eq default, ?_⟩
          rw [← List.append_assoc, significantLines_break hc, significantLines_break hc,
            significantLines_append_blank hmargin]
  | @separator before separator other after hseparator hother =>
      obtain ⟨hblank, hne, hlines⟩ := hseparator.spec
      obtain ⟨hblank', hne', hlines'⟩ := hother.spec
      have hgap : Text.SpacedAlike (other ++ after) (separator ++ after) :=
        .gap hne' hne hblank' hblank (.refl after)
      exact ⟨languageCode_congr (hgap.append_left before).directive?_eq default, by rw [hlines, hlines']⟩

/-! ### Documents -/

/-- A table is **complete** if it has a language for every code. -/
def LanguageTable.Complete (table : LanguageTable) : Prop :=
  ∀ code, ∃ language, table.language code = .ok language

/-- What a text is read as is told by **its language and its significant lines**. -/
theorem Document.ofText_congr {table : LanguageTable} {text other : Text}
    (hcode : languageCode other table.default = languageCode text table.default)
    (hlines : significantLines other = significantLines text) :
    Document.ofText table other = Document.ofText table text := by
  rw [Document.ofText, Document.ofText, hcode, hlines]

/-- What a text is read as is the same **after any changes of layout**, done or undone. -/
theorem Document.ofText_of_edits {table : LanguageTable} {text other : Text}
    (h : Relation.EqvGen (LayoutEdit table.default) text other) :
    Document.ofText table other = Document.ofText table text := by
  induction h with
  | rel text other hedit => exact Document.ofText_congr hedit.same.1 hedit.same.2
  | refl text => rfl
  | symm text other _ ih => exact ih.symm
  | trans text middle other _ _ ih ih' => exact ih'.trans ih

/-- **Layout never changes what a text is read as.** In plain layout a text names the same language, has the same
significant lines, and is read as the same document or with the same fault; and so does every text that any
changes of layout, done or undone, lead to. -/
theorem Document.ofText_layout {table : LanguageTable} (hcomplete : table.Complete)
    (hdefault : table.default ≠ [] ∧ ∀ c ∈ table.default, isBlank c = false) (text : Text) :
    let plain := plainLayout (languageCode text table.default) (significantLines text)
    languageCode plain table.default = languageCode text table.default ∧
      significantLines plain = significantLines text ∧
      ((∃ document, Document.ofText table text = .ok document ∧ Document.ofText table plain = .ok document) ∨
        ∃ fault, Document.ofText table text = .error (.specification fault none) ∧
          Document.ofText table plain = .error (.specification fault none)) ∧
      ∀ other, Relation.EqvGen (LayoutEdit table.default) text other →
        Document.ofText table other = Document.ofText table text := by
  intro plain
  obtain ⟨hne, hword⟩ := languageCode_word hdefault.1 hdefault.2 text
  have hcode : languageCode plain table.default = languageCode text table.default :=
    languageCode_append hne hword (by simp; decide) table.default
  have hlines : significantLines plain = significantLines text := significantLines_plainLayout hword text
  have hsame : Document.ofText table plain = Document.ofText table text := Document.ofText_congr hcode hlines
  refine ⟨hcode, hlines, ?_, fun other hother => Document.ofText_of_edits hother⟩
  obtain ⟨language, hlanguage⟩ := hcomplete (languageCode text table.default)
  rw [hsame]
  cases hread : Document.ofLines language (significantLines text) with
  | ok document =>
      have hok : Document.ofText table text = .ok document := by
        simp only [Document.ofText, hlanguage, hread]
      exact .inl ⟨document, hok, hok⟩
  | error fault =>
      have herror : Document.ofText table text = .error (.specification fault none) := by
        simp only [Document.ofText, hlanguage, hread]
      exact .inr ⟨fault, herror, herror⟩

/-- The beginning of a **letter**, up to the first line of a form. -/
def letterTop : Text := "\tScenario: One \nGiven a letter\n  : by : Ann\n"

/-- The **rest** of the form. -/
def letterEnd : Text := "  : on: Monday"

/-- A blank line **within a form** does not change what the letter is read as. -/
theorem Document.ofText_layout_letter :
    builtInLanguages.Complete ∧
      (builtInLanguages.default ≠ [] ∧ ∀ c ∈ builtInLanguages.default, isBlank c = false) ∧
      Document.ofText builtInLanguages (letterTop ++ (" " ++ "\r\n" ++ letterEnd)) =
        Document.ofText builtInLanguages (letterTop ++ letterEnd) := by
  have hcomplete : builtInLanguages.Complete := fun code =>
    let ⟨language, hlanguage, _⟩ := Language.exists_isBuiltIn code
    ⟨language, hlanguage⟩
  have hinked : ∀ c ∈ builtInLanguages.default, isBlank c = false := by
    have hall : builtInLanguages.default.all (fun c => !isBlank c) = true := by decide
    simpa using hall
  have hdefault : builtInLanguages.default ≠ [] := by decide
  have hbreak : ∀ c ∈ letterTop.getLast?, isLineBreak c = true := by
    have hlast : letterTop.getLast? = some '\n' := rfl
    have hfeed : isLineBreak '\n' = true := by decide
    simpa [hlast] using hfeed
  have hblank : Text.Blank " " := List.forall_mem_singleton.mpr rfl
  have hedit : LayoutEdit builtInLanguages.default (letterTop ++ letterEnd)
      (letterTop ++ (" " ++ "\r\n" ++ letterEnd)) :=
    .blankLine hbreak hblank (.inl rfl)
  exact ⟨hcomplete, ⟨hdefault, hinked⟩,
    (Document.ofText_layout hcomplete ⟨hdefault, hinked⟩ _).2.2.2 _ (.rel _ _ hedit)⟩

end PlainSpec
