import PlainSpec.Text.Blank
import PlainSpec.Text.Case

/-!
# Languages

A language gives each of six keywords its words, synonyms separated by a pipe. Where words compete for a
line, longer ones come first.
-/

namespace PlainSpec

/-- The six **keywords** of a specification. -/
inductive Keyword
  | feature
  | scenario
  | given
  | when
  | thus
  | also
  deriving DecidableEq, Repr

namespace Keyword

/-- All keywords, in their **customary order**. -/
def all : List Keyword := [feature, scenario, given, when, thus, also]

/-- The **name** of a keyword in a language table. -/
def name : Keyword → Text
  | feature => "feature"
  | scenario => "scenario"
  | given => "given"
  | when => "when"
  | thus => "then"
  | also => "and"

/-- The keyword with a name. -/
def ofName? (name : Text) : Option Keyword := all.find? (·.name == name)

end Keyword

/-- A **language**: its code and the text of each keyword. -/
structure Language where
  code : Text
  feature : Text
  scenario : Text
  given : Text
  when : Text
  thus : Text
  also : Text
  deriving DecidableEq, Repr

namespace Language

/-- The **text** of a keyword, synonyms and all. -/
def text (language : Language) : Keyword → Text
  | .feature => language.feature
  | .scenario => language.scenario
  | .given => language.given
  | .when => language.when
  | .thus => language.thus
  | .also => language.also

/-- The **words** of a keyword: its synonyms, trimmed, without empty ones. -/
def words (language : Language) (keyword : Keyword) : List Text :=
  ((Text.splitOn (· == '|') (language.text keyword)).map Text.trim).filter (!·.isEmpty)

/-- The words of a keyword, **longest first**; words of one length keep their order. -/
def wordsByLength (language : Language) (keyword : Keyword) : List Text :=
  (language.words keyword).mergeSort fun a b => b.length ≤ a.length

/-- The spellings that a line is **tried against**, in order. A keyword without words is spelled by
nothing at all. -/
def spellings (language : Language) (keyword : Keyword) : List Text :=
  match language.wordsByLength keyword with
  | [] => [[]]
  | words => words

end Language

end PlainSpec
