import PlainSpec.Text.Blank
import PlainSpec.Text.Case
import PlainSpec.Specification.StepKind

/-!
# Names and phrases

The name of a step function reads like the steps it performs. Its words are separated by underscores or,
without any underscore, begin with capitals; they make up a phrase. A name may begin with a word that
tells the kind of its steps.
-/

namespace PlainSpec

/-- Whether a character is an ASCII **capital**. -/
def isCapital (c : Char) : Bool := 65 ≤ c.toNat && c.toNat ≤ 90

/-- Cut a name **before every capital** but the first character. -/
def splitAtCapitals : Text → List Text
  | [] => [[]]
  | [c] => [[c]]
  | c :: d :: rest =>
    if isCapital d then [c] :: splitAtCapitals (d :: rest)
    else Text.consHead c (splitAtCapitals (d :: rest))

/-- Cut a name at its **runs of underscores**; of underscores alone one empty word is left. -/
def splitAtUnderscores (name : Text) : List Text :=
  match (Text.splitOn (· == '_') name).filter (!·.isEmpty) with
  | [] => [[]]
  | parts => parts

/-- The **words** that a name is made of. -/
def nameWords (name : Text) : List Text :=
  if name.contains '_' then splitAtUnderscores name else splitAtCapitals name

/-- The **phrase** that a name spells. -/
def phraseOf (name : Text) : Text := Text.join " " (nameWords name)

/-- Drop a leading kind word **and the blank after it**, in any case. -/
def dropKindWord (phrase : Text) : Text :=
  (StepKind.all.findSome? fun kind => Text.afterPrefixFold? (kind.word ++ " ") phrase).getD phrase

/-- The phrase of a name **without its kind word**, in lower case. -/
def bodyPhraseOf (name : Text) : Text := Text.lower (dropKindWord (phraseOf name))

/-- The **kind that a name begins with**: a kind word, capitalised or not, followed by an underscore or a
capital. -/
def kindOfName (name : Text) : StepKind :=
  let startsWith (kind : StepKind) : Bool :=
    match kind.word, name with
    | k :: ks, c :: cs =>
      (c == k || c == k.toUpper) &&
        match Text.afterPrefix? ks cs with
        | some (d :: _) => d == '_' || isCapital d
        | _ => false
    | _, _ => false
  (StepKind.all.find? startsWith).getD .unclear

/-- Whether a name **announces a step**. -/
def announcesStep (name : Text) : Bool := kindOfName name != .unclear

end PlainSpec
