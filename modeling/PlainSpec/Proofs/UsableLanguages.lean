import PlainSpec.Language.File
import PlainSpec.Proofs.LoweredText
import PlainSpec.Proofs.Outcomes
import PlainSpec.Specification.Files

/-!
# Usable language tables

A language table is accepted if it has an entry for its default language, whatever keywords this entry gives. The
default language fills in what other entries leave out, so it is the one entry that nothing completes: a keyword that
it lacks is lacking in every language that does not give it itself. An accepted table has a language for every code, and
reads every text, exactly if its default entry is complete. The entries that are built in are complete, and stay so
under a file that is laid over them. So a table that was loaded is usable, unless its default language is one of the
file.

## Main results

* `Vocabulary.lookup_completedBy`, `Vocabularies.lookup_laidOver`: what is given by one entry over another, and by one
  table over another.
* `LanguageTable.language_cases`: a code has a language, or else a first keyword that is missing.
* `Document.ofText_cases`: what can come of reading a text.
* `LanguageTable.usable_iff_complete`: which accepted tables are usable.
-/

namespace PlainSpec

/-! ### Entries over entries -/

/-- A completed vocabulary gives **its own words**, and those of the other one where it has none. -/
theorem Vocabulary.lookup_completedBy (first second : Vocabulary) (keyword : Keyword) :
    (first.completedBy second).lookup keyword = (first.lookup keyword).or (second.lookup keyword) := by
  rw [completedBy, List.lookup_append,
    Entries.lookup_filter (fun keyword => (first.lookup keyword).isNone) keyword second]
  cases first.lookup keyword <;> rfl

/-- A vocabulary is **complete** if it has words for every keyword. -/
def Vocabulary.Complete (vocabulary : Vocabulary) : Prop :=
  ∀ keyword, (vocabulary.lookup keyword).isSome = true

/-- What is laid over a **complete** vocabulary is complete with it. -/
theorem Vocabulary.Complete.completedBy {second : Vocabulary} (h : second.Complete) (first : Vocabulary) :
    Vocabulary.Complete (first.completedBy second) := by
  intro keyword
  rw [lookup_completedBy, Option.isSome_or, h keyword, Bool.or_true]

/-- A code of an upper table stands for its entry there, **completed by the lower one**; another code stands for what it
does in the lower table. -/
theorem Vocabularies.lookup_laidOver (upper lower : Vocabularies) (code : Text) :
    (upper.laidOver lower).lookup code =
      ((upper.lookup code).map fun vocabulary => vocabulary.completedBy ((lower.lookup code).getD [])).or
        (lower.lookup code) := by
  have hupper : (upper.map fun entry =>
        (entry.1, Vocabulary.completedBy entry.2 ((lower.lookup entry.1).getD []))).lookup code =
      (upper.lookup code).map fun vocabulary => vocabulary.completedBy ((lower.lookup code).getD []) := by
    induction upper with
    | nil => rfl
    | cons entry rest ih =>
        rw [List.map_cons, List.lookup_cons, List.lookup_cons, ih]
        cases hcode : code == entry.1 with
        | true => rw [beq_iff_eq.mp hcode]; rfl
        | false => rfl
  rw [laidOver, List.lookup_append, Entries.lookup_filter (fun code => (upper.lookup code).isNone) code lower]
  refine (congrArg (Option.or · _) hupper).trans ?_
  cases upper.lookup code <;> rfl

/-- The built-in entry of every code is **complete**, and stays so under a file. -/
theorem complete_laidOver_builtIn (added : Vocabularies) {code : Text} {vocabulary : Vocabulary}
    (hbuiltIn : (builtInVocabularies.lookup code).isSome = true)
    (h : (added.laidOver builtInVocabularies).lookup code = some vocabulary) : vocabulary.Complete := by
  obtain ⟨lower, hlower⟩ := Option.isSome_iff_exists.mp hbuiltIn
  have hcomplete : lower.Complete := by
    obtain ⟨before, after, hentries, -⟩ := List.lookup_eq_some_iff.mp hlower
    have hmem : (code, lower) ∈ builtInVocabularies := hentries ▸ List.mem_append_right _ List.mem_cons_self
    have hall := List.all_eq_true.mp builtIn_complete _ hmem
    intro keyword
    exact List.all_eq_true.mp hall keyword (by cases keyword <;> decide)
  rw [Vocabularies.lookup_laidOver, hlower] at h
  cases hadded : added.lookup code with
  | none =>
      rw [hadded] at h
      exact Option.some.inj h ▸ hcomplete
  | some upper =>
      rw [hadded] at h
      exact Option.some.inj h ▸ hcomplete.completedBy upper

namespace LanguageTable

variable {table : LanguageTable} {code : Text} {keyword : Keyword}

/-! ### Languages of codes -/

/-- The **words of a keyword** for a code: those of the entry that the code is resolved to, or of the default
language. -/
def words? (table : LanguageTable) (code : Text) (keyword : Keyword) : Option Text :=
  (((table.entries.lookup (table.resolve code)).getD []).lookup keyword).or
    (((table.entries.lookup table.default).getD []).lookup keyword)

/-- The **first keyword**, in the customary order, that has no words for a code. -/
def firstMissing? (table : LanguageTable) (code : Text) : Option Keyword :=
  Keyword.all.find? fun keyword => (table.words? code keyword).isNone

/-- No keyword is missing exactly if **each has words**. -/
theorem firstMissing?_eq_none_iff :
    table.firstMissing? code = none ↔ ∀ keyword, (table.words? code keyword).isSome = true := by
  rw [firstMissing?, List.find?_eq_none]
  constructor
  · intro h keyword
    have hmem : keyword ∈ Keyword.all := by cases keyword <;> decide
    simpa [Option.isSome_iff_ne_none] using h keyword hmem
  · intro h keyword _
    simpa [Option.isSome_iff_ne_none] using h keyword

/-- **A code has a language**, with the words of each keyword, **or else a first keyword that is missing**. -/
theorem language_cases (table : LanguageTable) (code : Text) :
    (table.firstMissing? code = none ∧ ∃ language, table.language code = .ok language ∧
      language.code = table.resolve code ∧
      ∀ keyword, table.words? code keyword = some (language.text keyword)) ∨
    ∃ keyword, table.firstMissing? code = some keyword ∧ table.language code = .error keyword := by
  have hwords : ∀ keyword, (table.vocabulary (table.resolve code)).lookup keyword = table.words? code keyword :=
    fun keyword => Vocabulary.lookup_completedBy _ _ keyword
  simp only [language, hwords, firstMissing?, Keyword.all, List.find?_cons, List.find?_nil]
  -- the keywords are asked for one after the other, so each case ends with the first one that is missing
  cases hfeature : table.words? code .feature with
  | none => exact .inr ⟨.feature, rfl, rfl⟩
  | some feature =>
  cases hscenario : table.words? code .scenario with
  | none => exact .inr ⟨.scenario, rfl, rfl⟩
  | some scenario =>
  cases hgiven : table.words? code .given with
  | none => exact .inr ⟨.given, rfl, rfl⟩
  | some given =>
  cases hwhen : table.words? code .when with
  | none => exact .inr ⟨.when, rfl, rfl⟩
  | some when =>
  cases hthus : table.words? code .thus with
  | none => exact .inr ⟨.thus, rfl, rfl⟩
  | some thus =>
  cases halso : table.words? code .also with
  | none => exact .inr ⟨.also, rfl, rfl⟩
  | some also =>
    refine .inl ⟨rfl, _, rfl, rfl, fun keyword => ?_⟩
    cases keyword <;> assumption

end LanguageTable

/-- **Reading a text** gives a document or a fault of the specification if the language that the text names has all
keywords, and fails for the first missing one otherwise. -/
theorem Document.ofText_cases (table : LanguageTable) (text : Text) :
    (table.firstMissing? (languageCode text table.default) = none ∧
      ((∃ document, Document.ofText table text = .ok document) ∨
        ∃ fault, Document.ofText table text = .error (.specification fault none))) ∨
    ∃ keyword, table.firstMissing? (languageCode text table.default) = some keyword ∧
      Document.ofText table text = .error (.missingKey keyword.name) := by
  rw [Document.ofText]
  rcases table.language_cases (languageCode text table.default) with
    ⟨hnone, language, hlanguage, -⟩ | ⟨keyword, hmissing, hlanguage⟩
  · refine .inl ⟨hnone, ?_⟩
    rw [hlanguage]
    cases hread : Document.ofLines language (significantLines text) with
    | ok document => exact .inl ⟨document, by simp only [hread]⟩
    | error fault => exact .inr ⟨fault, by simp only [hread]⟩
  · exact .inr ⟨keyword, hmissing, by rw [hlanguage]⟩

namespace LanguageTable

variable {table : LanguageTable}

/-! ### Accepted tables -/

/-- A table is **accepted** if it is made of entries, with a default language, or loaded. -/
inductive Accepted : LanguageTable → Prop
  | made {entries : Vocabularies} {default : Text} {table : LanguageTable} :
      ofVocabularies entries default = .ok table → Accepted table
  | loaded {tree : FileTree} {file : Option Text} {default : Text} {languages : Languages} :
      Languages.load tree file default = .ok languages → Accepted languages.table

/-- A table is **usable** if every code has a language in it, and every text is read as a document or has a fault. -/
structure Usable (table : LanguageTable) : Prop where
  language : ∀ code, ∃ language, table.language code = .ok language
  reads : ∀ text, (∃ document, Document.ofText table text = .ok document) ∨
    ∃ fault, Document.ofText table text = .error (.specification fault none)

/-- The entry of the **default language**. -/
def defaultVocabulary (table : LanguageTable) : Vocabulary := (table.entries.lookup table.default).getD []

/-- The table **made of entries** has these, and its default language in lower case. -/
theorem of_ofVocabularies {entries : Vocabularies} {default : Text}
    (h : ofVocabularies entries default = .ok table) :
    table.entries = entries ∧ table.default = Text.lower default := by
  rw [ofVocabularies, ofVocabularies?] at h
  split at h
  · next made hmade =>
    obtain rfl := Except.ok.inj h
    split at hmade
    · obtain rfl := Option.some.inj hmade
      exact ⟨rfl, rfl⟩
    · exact absurd hmade (by simp)
  · exact absurd h (by simp)

/-- A table that is loaded is made of the **built-in entries**, with others laid over them. -/
theorem of_load {tree : FileTree} {file : Option Text} {default : Text} {languages : Languages}
    (h : Languages.load tree file default = .ok languages) :
    ∃ added : Vocabularies, ofVocabularies (added.laidOver builtInVocabularies) default = .ok languages.table := by
  have hmade : ∀ (added : Vocabularies) (file : Option Text),
      (do return ⟨← ofVocabularies (added.laidOver builtInVocabularies) default, file⟩ : Except Failure Languages) =
        .ok languages → ofVocabularies (added.laidOver builtInVocabularies) default = .ok languages.table := by
    intro added file h
    obtain ⟨table, htable, h⟩ := exists_of_bind_eq_ok h
    obtain rfl := Except.ok.inj h
    exact htable
  rw [Languages.load] at h
  split at h
  · obtain ⟨added, -, h⟩ := exists_of_bind_eq_ok h
    exact ⟨added, hmade added _ h⟩
  · obtain ⟨added, -, h⟩ := exists_of_bind_eq_ok h
    exact ⟨added, hmade added _ h⟩

/-- The default language of an accepted table **stands for itself**. -/
theorem Accepted.resolve_default (h : table.Accepted) : table.resolve table.default = table.default := by
  have hlower : ∃ code, table.default = Text.lower code := by
    cases h with
    | made hmade => exact ⟨_, (of_ofVocabularies hmade).2⟩
    | loaded hloaded =>
        obtain ⟨added, hmade⟩ := of_load hloaded
        exact ⟨_, (of_ofVocabularies hmade).2⟩
  obtain ⟨code, hcode⟩ := hlower
  have hlowered : Text.lower table.default = table.default := by
    rw [hcode]
    exact Text.lower_eq_self fun c hc => Text.lowerChar_of_mem_lower hc
  rw [resolve]
  simp only [hlowered]
  rw [if_pos table.hasDefault]

/-- A table is usable if **no keyword is missing** for any code. -/
theorem usable_of_firstMissing? (h : ∀ code, table.firstMissing? code = none) : table.Usable where
  language code := by
    rcases table.language_cases code with ⟨-, language, hlanguage, -⟩ | ⟨keyword, hmissing, -⟩
    · exact ⟨language, hlanguage⟩
    · exact absurd ((h code).symm.trans hmissing) (by simp)
  reads text := by
    rcases Document.ofText_cases table text with ⟨-, hread⟩ | ⟨keyword, hmissing, -⟩
    · exact hread
    · exact absurd ((h _).symm.trans hmissing) (by simp)

/-- A table whose default entry is **complete** is usable. -/
theorem usable_of_complete (h : table.defaultVocabulary.Complete) : table.Usable := by
  refine usable_of_firstMissing? fun code => firstMissing?_eq_none_iff.mpr fun keyword => ?_
  rw [words?, Option.isSome_or]
  exact (congrArg _ (h keyword)).trans (Bool.or_true _)

/-- **An accepted table is usable exactly if its default entry is complete**; if it was loaded, it is enough that its
default language is built in. Whether it is or not, a code has a language with the words of its entry, or of the default
entry where it has none, unless a keyword has words in neither of them. Then the code has no language, and a text that
names the code is not read. -/
theorem usable_iff_complete (h : table.Accepted) :
    (table.Usable ↔ table.defaultVocabulary.Complete) ∧
      (∀ tree file default languages, Languages.load tree file default = .ok languages →
        (builtInVocabularies.lookup (Text.lower default)).isSome = true → languages.table.Usable) ∧
      (∀ code, (table.firstMissing? code = none ∧ ∃ language, table.language code = .ok language ∧
          ∀ keyword, table.words? code keyword = some (language.text keyword)) ∨
        ∃ keyword, table.firstMissing? code = some keyword ∧ table.language code = .error keyword) ∧
      ∀ text, (table.firstMissing? (languageCode text table.default) = none ∧
          ((∃ document, Document.ofText table text = .ok document) ∨
            ∃ fault, Document.ofText table text = .error (.specification fault none))) ∨
        ∃ keyword, table.firstMissing? (languageCode text table.default) = some keyword ∧
          Document.ofText table text = .error (.missingKey keyword.name) := by
  refine ⟨⟨fun husable keyword => ?_, usable_of_complete⟩, ?_, fun code => ?_, Document.ofText_cases table⟩
  · obtain ⟨language, hlanguage⟩ := husable.language table.default
    rcases table.language_cases table.default with ⟨hnone, -⟩ | ⟨missing, -, hmissing⟩
    · have hwords := firstMissing?_eq_none_iff.mp hnone keyword
      rwa [words?, h.resolve_default, Option.or_self] at hwords
    · exact absurd (hlanguage.symm.trans hmissing) (by simp)
  · intro tree file default languages hload hbuiltIn
    obtain ⟨added, hmade⟩ := of_load hload
    obtain ⟨hentries, hdefault⟩ := of_ofVocabularies hmade
    obtain ⟨vocabulary, hvocabulary⟩ := Option.isSome_iff_exists.mp languages.table.hasDefault
    refine usable_of_complete ?_
    rw [defaultVocabulary, hvocabulary, Option.getD_some]
    rw [hentries, hdefault] at hvocabulary
    exact complete_laidOver_builtIn added hbuiltIn hvocabulary
  · rcases table.language_cases code with ⟨hnone, language, hlanguage, -, hwords⟩ | hmissing
    · exact .inl ⟨hnone, language, hlanguage, hwords⟩
    · exact .inr hmissing

/-- A table with the keywords of **English** and a language that has a word of its own for one of them. -/
def shortTable : LanguageTable :=
  ⟨Vocabularies.ofList [("en", Vocabulary.ofNames [("feature", "Feature"), ("scenario", "Scenario"), ("given", "Given"),
      ("when", "When"), ("then", "Then"), ("and", "And")]), ("short", Vocabulary.ofNames [("given", "Assume")])],
    "en", by decide⟩

/-- The table is usable, and English **fills in** for the language. -/
theorem usable_shortTable : ofVocabularies shortTable.entries "en" = .ok shortTable ∧ shortTable.Usable ∧
    shortTable.words? "short" .given = some ("Assume" : Text) ∧
    shortTable.words? "short" .thus = some ("Then" : Text) := by
  have hmade : ofVocabularies shortTable.entries "en" = .ok shortTable := rfl
  have hcomplete : shortTable.defaultVocabulary.Complete := by
    intro keyword
    cases keyword <;> decide
  exact ⟨hmade, (usable_iff_complete (.made hmade)).1.mpr hcomplete, by decide, by decide⟩

/-- A table whose only language has **no word but one**, for features. -/
def featureTable : LanguageTable :=
  ⟨Vocabularies.ofList [("en", Vocabulary.ofNames [("feature", "Feature")])], "en", by decide⟩

/-- The table is accepted, but its language **lacks scenarios**, so that not even the empty text is read. -/
theorem unusable_featureTable : ofVocabularies featureTable.entries "en" = .ok featureTable ∧
    featureTable.language "en" = .error .scenario ∧
    Document.ofText featureTable [] = .error (.missingKey "scenario") :=
  ⟨rfl, rfl, rfl⟩

end LanguageTable

end PlainSpec
