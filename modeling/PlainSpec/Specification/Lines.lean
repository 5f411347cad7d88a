import PlainSpec.Language.Basic
import PlainSpec.Text.Digit
import PlainSpec.Text.Word

/-!
# The lines of a specification

What one line can be: a header that opens a feature or a scenario, a named header, or a step. Blank lines
and comments count for nothing, but a comment may name the language of the text.
-/

namespace PlainSpec

/-- The code of the language that is in force when a text **names none**. -/
def defaultLanguageCode : Text := "en"

/-- What follows a colon with white space around it. -/
def afterColon? (t : Text) : Option Text :=
  match Text.trimLeft t with
  | ':' :: rest => some (Text.trimLeft rest)
  | _ => none

/-- The code in a **language directive** that begins the text with its hash. -/
def directiveCode? : Text → Option Text
  | '#' :: rest => do
    let rest ← Text.afterPrefixFold? "language" (Text.trimLeft rest)
    let rest ← afterColon? rest
    match rest.takeWhile fun c => !isBlank c with
    | [] => none
    | code => some code
  | _ => none

/-- The language code of the **first directive** in a text. -/
def directive? : Text → Option Text
  | [] => none
  | c :: rest =>
    match directiveCode? (c :: rest) with
    | some code => some code
    | none => directive? rest

/-- The **language code** of a text. -/
def languageCode (text default : Text) : Text := (directive? text).getD default

/-- The **significant lines** of a text: trimmed, neither empty nor comments. -/
def significantLines (text : Text) : List Text :=
  ((Text.lines text).map Text.trim).filter fun line => !line.isEmpty && line.head? != some '#'

/-- What follows a number in a header: the white space, the **number**, and the colon. -/
def afterNumber? (t : Text) : Option Text :=
  match Text.trimLeft ((Text.trimLeft t).dropWhile isDecimalDigit) with
  | ':' :: rest => if rest.isEmpty then none else some rest
  | _ => none

/-- The **title** in a line that opens a feature or a scenario: a spelling of the keyword, perhaps a
number, a colon and the title. -/
def title? (spellings : List Text) (line : Text) : Option Text :=
  spellings.findSome? fun spelling => do
    let rest ← Text.afterPrefixFold? spelling (Text.trimLeft line)
    let rest ← afterNumber? rest
    return Text.trim rest

/-- The **keyword** as it stands in a step line: a spelling followed by white space and more text. -/
def stepKeyword? (spellings : List Text) (line : Text) : Option Text :=
  let line := Text.trimLeft line
  spellings.findSome? fun spelling =>
    match Text.afterPrefixFold? spelling line with
    | some (c :: _ :: _) => if isBlank c then some (line.take spelling.length) else none
    | _ => none

/-- The name and value of a **named header**: an at sign, a name of word characters and hyphens, and
perhaps a colon and a value. -/
def namedHeader? : Text → Option (Text × Text)
  | '@' :: rest =>
    let name := rest.takeWhile fun c => isWordChar c || c == '-'
    let after := rest.drop name.length
    if name.isEmpty then none
    else if after.isEmpty then some (Text.lower name, [])
    else (afterColon? after).map fun value => (Text.lower name, Text.trim value)
  | _ => none

end PlainSpec
