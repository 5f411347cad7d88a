import PlainSpec.Proofs.WrittenBlocks
import PlainSpec.Proofs.WrittenLines

/-!
# Kinds of lines

Which kind a line is of depends on the keyword that it begins with, and on nothing else if a line cannot begin
with the words of two keywords. Two words **clash** if they differ, up to case, at a place that both have; then
no line begins with both. In a built-in vocabulary the words that open features and scenarios clash with the
words of all other keywords, and every word clashes with the marks that form lines and grid lines begin with.
This is decided by going through all pairs of words.

## Main results

* `Language.IsBuiltIn.apart`: in a built-in vocabulary the words of different kinds of lines clash.
* `Language.Apart.unique`: a line that opens a feature or a scenario begins with no word of another keyword.
* `Language.Apart.endBefore`: a line that begins with a word belongs to no block.
-/

namespace PlainSpec

/-! ### Texts that clash -/

/-- Whether two texts **clash**: they differ, up to case, at a place that both have. -/
def Text.clash : Text → Text → Bool
  | a :: as, b :: bs => !sameLetter a b || Text.clash as bs
  | _, _ => false

/-- No text **begins with both** of two texts that clash. -/
theorem Text.not_begins_of_clash {v w t : Text} (h : Text.clash v w = true)
    (hv : (Text.afterPrefixFold? v t).isSome = true) : Text.afterPrefixFold? w t = none := by
  induction v generalizing w t with
  | nil => exact absurd h (by simp [Text.clash])
  | cons a v ih =>
      cases w with
      | nil => exact absurd h (by simp [Text.clash])
      | cons b w =>
          cases t with
          | nil => rfl
          | cons c t =>
              rw [Text.afterPrefixFold?] at hv ⊢
              split at hv
              · next hac =>
                split
                · next hbc =>
                  have hab : sameLetter a b = true := sameLetter_trans hac (sameLetter_symm hbc)
                  rw [Text.clash, hab, Bool.not_true, Bool.false_or] at h
                  exact ih h hv
                · rfl
              · exact absurd hv (by simp)

/-! ### Vocabularies that keep lines apart -/

namespace Language

/-- A vocabulary keeps the kinds of lines **apart**: every keyword has a word, every word clashes with the
marks of form lines and grid lines, and the words that open features and scenarios clash with the words of all
other keywords. -/
def Apart (language : Language) : Prop :=
  ∀ keyword ∈ Keyword.all, language.words keyword ≠ [] ∧ ∀ word ∈ language.words keyword,
    Text.clash ":" word = true ∧ Text.clash "|" word = true ∧
      ∀ other ∈ Keyword.all, other ≠ keyword → keyword.mark = ':' →
        ∀ s ∈ language.words other, Text.clash word s = true

instance (language : Language) : Decidable language.Apart :=
  inferInstanceAs (Decidable (∀ _ ∈ Keyword.all, _))

/-- Every built-in vocabulary keeps the kinds of lines apart. -/
theorem builtIn_apart :
    builtInVocabularies.all (fun entry =>
      match builtInLanguages.language entry.1 with
      | .ok language => decide language.Apart
      | .error _ => false) = true := by
  decide +kernel

variable {language : Language} {keyword other : Keyword} {line : Text}

/-- A built-in vocabulary keeps the kinds of lines **apart**. -/
theorem IsBuiltIn.apart (h : language.IsBuiltIn) : language.Apart := by
  obtain ⟨hmem, hlanguage⟩ := h
  obtain ⟨entry, hentry, hcode⟩ := List.mem_map.mp hmem
  have hcheck := List.all_eq_true.mp builtIn_apart entry hentry
  rw [hcode, hlanguage] at hcheck
  exact of_decide_eq_true hcheck

/-- A line **begins with a word** of a keyword, white space aside. -/
def Begins (language : Language) (keyword : Keyword) (line : Text) : Prop :=
  ∃ word ∈ language.words keyword, (Text.afterPrefixFold? word (Text.trimLeft line)).isSome = true

/-- A line with a **title** begins with a word of the keyword. -/
theorem Apart.begins_of_title? (h : language.Apart)
    (hline : (title? (language.spellings keyword) line).isSome = true) : language.Begins keyword line := by
  rw [title?_eq, List.findSome?_isSome_iff] at hline
  obtain ⟨spelling, hspelling, hsome⟩ := hline
  refine ⟨spelling, (mem_spellings (h keyword keyword.mem_all).1).mp hspelling, ?_⟩
  rw [titleUnder?] at hsome
  cases hafter : Text.afterPrefixFold? spelling (Text.trimLeft line) with
  | none => simp [hafter] at hsome
  | some rest => rfl

/-- A line with a **keyword of a step** begins with a word of the keyword. -/
theorem Apart.begins_of_stepKeyword? (h : language.Apart)
    (hline : (stepKeyword? (language.spellings keyword) line).isSome = true) :
    language.Begins keyword line := by
  rw [stepKeyword?_eq, List.findSome?_isSome_iff] at hline
  obtain ⟨spelling, hspelling, hsome⟩ := hline
  refine ⟨spelling, (mem_spellings (h keyword keyword.mem_all).1).mp hspelling, ?_⟩
  unfold keywordUnder? at hsome
  split at hsome
  · next hafter => rw [hafter, Option.isSome_some]
  · exact absurd hsome (by simp)

/-- A line that begins with a word that opens **features or scenarios** begins with no word of another
keyword. -/
theorem Apart.unique (h : language.Apart) (hmark : keyword.mark = ':')
    (hline : language.Begins keyword line) (hother : language.Begins other line) : other = keyword := by
  refine Decidable.byContradiction fun hne => ?_
  obtain ⟨word, hword, hbegins⟩ := hline
  obtain ⟨s, hs, hbegins'⟩ := hother
  obtain ⟨-, -, hclash⟩ := (h keyword keyword.mem_all).2 word hword
  have hnone := Text.not_begins_of_clash (hclash other other.mem_all hne hmark s hs) hbegins
  rw [hnone] at hbegins'
  exact absurd hbegins' (by simp)

/-- A line that begins with a word **begins with no mark**. -/
theorem Apart.head?_ne (h : language.Apart) (hline : language.Begins keyword line) :
    line.head? ≠ some ':' ∧ line.head? ≠ some '|' := by
  obtain ⟨word, hword, hbegins⟩ := hline
  obtain ⟨hcolon, hpipe, -⟩ := (h keyword keyword.mem_all).2 word hword
  have hmark : ∀ mark : Char, isBlank mark = false → Text.clash [mark] word = true →
      line.head? ≠ some mark := by
    rintro mark hink hclash hhead
    obtain ⟨rest, rfl⟩ := List.head?_eq_some_iff.mp hhead
    have hmark : (Text.afterPrefixFold? [mark] (mark :: rest)).isSome = true := by
      rw [Text.afterPrefixFold?, if_pos (sameLetter_refl mark)]
      rfl
    rw [Text.trimLeft_ink hink, Text.not_begins_of_clash hclash hmark] at hbegins
    exact absurd hbegins (by simp)
  exact ⟨hmark ':' rfl hcolon, hmark '|' rfl hpipe⟩

end Language

/-! ### The languages of the built-in table -/

/-- The codes of the built-in table **stand for themselves**, and have a language of that code. -/
theorem builtIn_resolve :
    builtInVocabularies.all (fun entry =>
      builtInLanguages.resolve entry.1 == entry.1 &&
        match builtInLanguages.language entry.1 with
        | .ok language => language.code == entry.1
        | .error _ => false) = true := by
  decide +kernel

/-- **Every code** has a built-in language. -/
theorem Language.exists_isBuiltIn (code : Text) :
    ∃ language, builtInLanguages.language code = .ok language ∧ language.IsBuiltIn := by
  obtain ⟨vocabulary, hlookup⟩ :=
    Option.isSome_iff_exists.mp (builtInLanguages.isSome_lookup_resolve code)
  obtain ⟨before, after, hentries, -⟩ := List.lookup_eq_some_iff.mp hlookup
  have hmem : (builtInLanguages.resolve code, vocabulary) ∈ builtInVocabularies := by
    have hentries' : builtInVocabularies = _ := hentries
    rw [hentries']
    exact List.mem_append_right _ List.mem_cons_self
  obtain ⟨hresolve, hlanguage⟩ :=
    Bool.and_eq_true_iff.mp (List.all_eq_true.mp builtIn_resolve _ hmem)
  cases hread : builtInLanguages.language (builtInLanguages.resolve code) with
  | error keyword => simp [hread] at hlanguage
  | ok language =>
      have hcode : language.code = builtInLanguages.resolve code := by simpa [hread] using hlanguage
      refine ⟨language, ?_, hcode ▸ List.mem_map_of_mem hmem, hcode ▸ hread⟩
      rw [← hread]
      exact LanguageTable.language_congr (beq_iff_eq.mp hresolve).symm

/-- The built-in **English** vocabulary. -/
def english : Language := ⟨"en", "Feature", "Scenario", "Given", "When", "Then", "And|But"⟩

/-! ### Lines of blocks -/

/-- A line that begins with a word belongs to **no block**. -/
theorem Language.Apart.endBefore {language : Language} {keyword : Keyword} {line : Text}
    (h : language.Apart) (hline : language.Begins keyword line) (rest : List Text) :
    Block.EndBefore (line :: rest) := by
  intro first hfirst
  obtain rfl : line = first := by simpa using hfirst
  obtain ⟨hcolon, hpipe⟩ := h.head?_ne hline
  exact ⟨Bool.eq_false_iff.mpr fun hform => hcolon (head?_of_isFormLine hform),
    Bool.eq_false_iff.mpr fun hgrid => hpipe (head?_of_isGridLine hgrid)⟩

end PlainSpec
