import PlainSpec.Language.Basic

/-!
# Language tables

A table has an entry for each language code; an entry may leave keywords out, which are then taken from
the default language. A code that the table lacks stands for its primary subtag, and failing that for the
default language.

## Main results

* `isSome_lookup_resolve`: every code is resolved to a code of the table.
-/

namespace PlainSpec

/-- The **keywords** of one language, as far as a table gives them. -/
abbrev Vocabulary := List (Keyword × Text)

/-- Set the text of a keyword. -/
def Vocabulary.put (keyword : Keyword) (text : Text) (vocabulary : Vocabulary) : Vocabulary :=
  (keyword, text) :: vocabulary.filter (·.1 != keyword)

/-- The keywords that one vocabulary gives, and those of another that the first **leaves out**. -/
def Vocabulary.completedBy (first second : Vocabulary) : Vocabulary :=
  first ++ second.filter fun entry => (first.lookup entry.1).isNone

/-- The keywords among named texts; **other names** are passed over. -/
def Vocabulary.ofNames (texts : List (Text × Text)) : Vocabulary :=
  texts.foldl (fun vocabulary (name, text) =>
    match Keyword.ofName? name with
    | some keyword => vocabulary.put keyword text
    | none => vocabulary) []

/-- Entries by **language code**, in lower case. -/
abbrev Vocabularies := List (Text × Vocabulary)

namespace Vocabularies

/-- Set the entry of a code, written in **any case**. -/
def put (code : Text) (vocabulary : Vocabulary) (entries : Vocabularies) : Vocabularies :=
  let code := Text.lower code
  (code, vocabulary) :: entries.filter (·.1 != code)

/-- Entries in which later ones **replace** earlier ones of the same code. -/
def ofList (entries : List (Text × Vocabulary)) : Vocabularies :=
  entries.foldl (fun all entry => put entry.1 entry.2 all) []

/-- Lay entries **over** others, keyword by keyword. -/
def laidOver (upper lower : Vocabularies) : Vocabularies :=
  upper.map (fun (code, vocabulary) =>
    (code, Vocabulary.completedBy vocabulary ((lower.lookup code).getD []))) ++
  lower.filter fun entry => (upper.lookup entry.1).isNone

end Vocabularies

/-- A **language table**: entries and the code of the default language, which has one. -/
structure LanguageTable where
  entries : Vocabularies
  default : Text
  hasDefault : (entries.lookup default).isSome = true

namespace LanguageTable

/-- A table with a default language, if there is an **entry** for it. -/
def ofVocabularies? (entries : Vocabularies) (default : Text) : Option LanguageTable :=
  let default := Text.lower default
  if h : (entries.lookup default).isSome = true then some ⟨entries, default, h⟩ else none

/-- The codes of a table, **in order**. -/
def codes (table : LanguageTable) : List Text := (table.entries.map Prod.fst).mergeSort Text.before

/-- The part of a code before its **first hyphen or underscore**. -/
def primarySubtag (code : Text) : Text := code.takeWhile fun c => c != '-' && c != '_'

/-- The code **in the table** that stands for a code: itself, its primary subtag or the default. -/
def resolve (table : LanguageTable) (code : Text) : Text :=
  let code := Text.lower code
  if (table.entries.lookup code).isSome then code
  else if (table.entries.lookup (primarySubtag code)).isSome then primarySubtag code
  else table.default

theorem isSome_lookup_resolve (table : LanguageTable) (code : Text) :
    (table.entries.lookup (table.resolve code)).isSome = true := by
  unfold resolve
  simp only
  split
  · assumption
  · split
    · assumption
    · exact table.hasDefault

/-- The keywords for a resolved code, the **default** language filling in. -/
def vocabulary (table : LanguageTable) (resolved : Text) : Vocabulary :=
  Vocabulary.completedBy ((table.entries.lookup resolved).getD [])
    ((table.entries.lookup table.default).getD [])

/-- The **language** for a code, or the first keyword that neither its entry nor the default has. -/
def language (table : LanguageTable) (code : Text) : Except Keyword Language :=
  let resolved := table.resolve code
  let text (keyword : Keyword) : Except Keyword Text :=
    match (table.vocabulary resolved).lookup keyword with
    | some text => .ok text
    | none => .error keyword
  do
    let feature ← text .feature
    let scenario ← text .scenario
    let given ← text .given
    let when ← text .when
    let thus ← text .thus
    let also ← text .also
    return ⟨resolved, feature, scenario, given, when, thus, also⟩

/-- Two codes that stand for one have **one language**. -/
theorem language_congr {table : LanguageTable} {a b : Text} (h : table.resolve a = table.resolve b) :
    table.language a = table.language b := by
  rw [language, language, h]

end LanguageTable

end PlainSpec
