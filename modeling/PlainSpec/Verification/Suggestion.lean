import PlainSpec.Specification.Document
import PlainSpec.Text.Digit
import PlainSpec.Text.FreeName
import PlainSpec.Text.Word

/-!
# Suggestions

For a step that nothing recognises a definition can be suggested. The tokens of the step that look like
values become its parameters, and the other tokens the words of its name. A parameter is never named like
one of these words.
-/

namespace PlainSpec

/-- What is left of a quoted token **behind its closing mark**. -/
def afterQuoted? (mark : Char) (t : Text) : Option Text :=
  match t.dropWhile (· != mark) with
  | _ :: rest => some rest
  | [] => none

/-- The **tokens** of a text: quoted texts, which begin a token and end with the next mark of the same
kind, and runs of characters without white space. `skip` characters belong to the token before. -/
def tokensFrom : Nat → Text → List Text
  | _, [] => []
  | skip + 1, _ :: rest => tokensFrom skip rest
  | 0, c :: rest =>
    if isBlank c then tokensFrom 0 rest
    else
      let token :=
        match if c = '"' || c = '\'' then afterQuoted? c rest else none with
        | some after => (c :: rest).take (rest.length + 1 - after.length)
        | none => (c :: rest).takeWhile fun d => !isBlank d
      token :: tokensFrom (token.length - 1) rest

/-- The **tokens** of a text. -/
def tokens (t : Text) : List Text := tokensFrom 0 t

/-- What a token that **looks like a value** looks like. -/
inductive TokenKind
  | text
  | integer
  | real
  deriving DecidableEq, Repr

namespace TokenKind

/-- The **name** of a parameter for a value. -/
def baseName : TokenKind → Text
  | text => "text"
  | integer => "number"
  | real => "value"

/-- The **type** of a parameter for a value. -/
def typeName : TokenKind → Text
  | text => "str"
  | integer => "int"
  | real => "float"

end TokenKind

/-- Drop a **sign** in front. -/
def dropSign : Text → Text
  | c :: rest => if c = '-' || c = '+' then rest else c :: rest
  | [] => []

/-- Whether a token looks like an **integer**, perhaps an ordinal number. -/
def looksInteger (token : Text) : Bool :=
  let digits := (dropSign token).takeWhile isDecimalDigit
  let ending := (dropSign token).drop digits.length
  !digits.isEmpty &&
    (ending.isEmpty || (["st", "nd", "rd", "th"] : List Text).any fun e => Text.sameLetters e ending)

/-- Whether a token looks like a number **with a point**. -/
def looksReal (token : Text) : Bool :=
  match (dropSign token).dropWhile isDecimalDigit with
  | '.' :: fraction => !fraction.isEmpty && fraction.all isDecimalDigit
  | _ => false

/-- What a token looks like, if it looks like a **value**. -/
def tokenKind? (token : Text) : Option TokenKind :=
  if token.head? = some '"' || token.head? = some '\'' then some .text
  else if looksInteger token then some .integer
  else if looksReal token then some .real
  else none

/-- The **word** that a token stands for: its word characters, in lower case. -/
def tokenWord (token : Text) : Text := Text.lower (token.filter isWordChar)

/-- A **definition** that is being made up: the words of its name, its parameters and their types, and the
names that are taken. -/
structure Draft where
  words : List Text
  parameters : List (Text × Text)
  taken : List Text
  deriving DecidableEq, Repr

namespace Draft

/-- Add a **parameter** under a name that is free. -/
def addParameter (draft : Draft) (base type : Text) : Text × Draft :=
  let name := Text.freeName draft.taken base []
  (name, { draft with parameters := draft.parameters ++ [(name, type)], taken := name :: draft.taken })

/-- Add a **word** to the name, unless there is nothing to it. -/
def addWord (draft : Draft) (word : Text) : Draft :=
  if word.isEmpty then draft else { draft with words := draft.words ++ [word] }

/-- Add a **token**. -/
def addToken (draft : Draft) (token : Text) : Draft :=
  match tokenKind? token with
  | some kind =>
    let (name, draft) := draft.addParameter kind.baseName kind.typeName
    draft.addWord name
  | none => draft.addWord (tokenWord token)

/-- Add a parameter for the **block** of a step. -/
def addBlock (draft : Draft) : Option Block → Draft
  | some (.form _) => (draft.addParameter "form" "Form").2
  | some (.grid _) => (draft.addParameter "grid" "Grid").2
  | none => draft

/-- The draft for a **step**. The words of its tokens are taken from the start. -/
def ofStep (step : Step) : Draft :=
  let found := tokens step.body
  let taken := (found.filter fun token => (tokenKind? token).isNone).map tokenWord
  (found.foldl addToken ⟨[step.kind.word], [], taken⟩).addBlock step.block

/-- A draft **as source text**. -/
def toText (draft : Draft) : Text :=
  let parameters := draft.parameters.map fun (name, type) => name ++ ": " ++ type
  "def " ++ Text.join "_" draft.words ++ "(" ++ Text.join ", " parameters ++
    "):\n    raise NotImplementedError"

end Draft

/-- The **suggestion** for a step. -/
def suggestion (step : Step) : Text := (Draft.ofStep step).toText

end PlainSpec
