import PlainSpec.Text.Digit
import PlainSpec.Text.FreeName
import PlainSpec.Text.Word
import PlainSpec.Text.Blank
import PlainSpec.Text.Case

/-!
# Names in test modules

Free text, such as the name of a scenario, is turned into an identifier: punctuation is dropped, blanks
become underscores, and a digit does not come first.
-/

namespace PlainSpec

/-- Free text **without punctuation**: its word characters and blanks. -/
def withoutPunctuation (t : Text) : Text := t.filter fun c => isWordChar c || isBlank c

/-- An underscore in front of a text that begins with a **digit**, or with nothing at all. -/
def guardDigit (t : Text) : Text :=
  match t with
  | [] => ['_']
  | c :: _ => if isDigit c then '_' :: t else t

/-- The **identifier** that free text spells. -/
def identifierOf (t : Text) : Text := guardDigit (Text.join "_" (Text.words (withoutPunctuation t)))

/-- A word with its first character in **upper case**. -/
def capitalised : Text → Text
  | [] => []
  | c :: rest => Text.upperChar c ++ rest

/-- The **class name** that free text spells: the words of its identifier, each with a capital. -/
def classNameOf (t : Text) : Text :=
  guardDigit (((Text.splitOn (· == '_') (identifierOf t)).filter (!·.isEmpty)).flatMap capitalised)

/-- The name of the **test** for a scenario. -/
def testNameOf (scenario : Text) : Text := "test_" ++ Text.lower (identifierOf scenario)

/-- The tests for scenarios, given the names that are **taken**: each scenario gets a name of its own. -/
def testsFor (taken : List Text) : List Text → List (Text × Text)
  | [] => []
  | scenario :: rest =>
    let name := Text.freeName taken (testNameOf scenario) "_"
    (name, scenario) :: testsFor (name :: taken) rest

/-- The **names of the tests** for scenarios, each with its scenario, in order. -/
def tests (scenarios : List Text) : List (Text × Text) := testsFor [] scenarios

end PlainSpec
