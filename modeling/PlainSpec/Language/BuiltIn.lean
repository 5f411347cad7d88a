import PlainSpec.Language.Table

/-!
# The built-in languages

The keywords of the languages that need no table of their own. English is the default.

## Main results

* `builtIn_complete`: every built-in language has all six keywords.
-/

namespace PlainSpec

/-- An entry with **all six** keywords. -/
def vocabulary (code feature scenario given when thus also : Text) : Text × Vocabulary :=
  (code, [(.feature, feature), (.scenario, scenario), (.given, given), (.when, when), (.thus, thus),
    (.also, also)])

/-- The entries of the **built-in** languages. -/
def builtInVocabularies : Vocabularies :=
  [vocabulary "en"
     "Feature" "Scenario"
     "Given" "When"
     "Then" "And|But",
   vocabulary "de"
     "Funktionalität|Funktion" "Szenario"
     "Angenommen|Gegeben sei" "Wenn"
     "Dann" "Und|Aber",
   vocabulary "es"
     "Característica" "Escenario"
     "Dado|Dada" "Cuando"
     "Entonces" "Y|Pero",
   vocabulary "fr"
     "Fonctionnalité" "Scénario"
     "Soit|Étant donné|Etant donné" "Quand|Lorsque"
     "Alors" "Et|Mais",
   vocabulary "it"
     "Funzionalità" "Scenario"
     "Dato|Data" "Quando"
     "Allora" "E|Ma",
   vocabulary "nl"
     "Functionaliteit" "Scenario"
     "Gegeven|Stel" "Als"
     "Dan" "En|Maar",
   vocabulary "pt"
     "Funcionalidade" "Cenário|Cenario"
     "Dado|Dada" "Quando"
     "Então|Entao" "E|Mas",
   vocabulary "sv"
     "Egenskap" "Scenario"
     "Givet" "När"
     "Så" "Och|Men"]

theorem builtIn_complete :
    builtInVocabularies.all (fun entry => Keyword.all.all fun k => (entry.2.lookup k).isSome) = true := by
  decide

/-- The **built-in** languages, with English as the default. -/
def builtInLanguages : LanguageTable := ⟨builtInVocabularies, "en", by decide⟩

end PlainSpec
