import PlainSpec.Inline.Value
import PlainSpec.Pattern.Match

/-!
# Inline kinds

A kind of inline values knows which types it serves, by which pattern such a value is recognised in the
line of a step, and how the recognised text is read. The pattern of an optional type also recognises the
word for nothing.
-/

namespace PlainSpec

/-- A kind of inline values **of one's own**: the types that it serves, the pattern of their values, with
or without nothing among them, and how a value is read. The pattern captures nothing itself, and all that
is written in it stands for itself. -/
structure CustomKind where
  handles : Option ParamType → Bool
  values : Option ParamType → Bool → Pattern
  read : Option ParamType → Text → Except ConversionFault Value
  captureNames_values : ∀ type nullable, (values type nullable).captureNames = []
  isPlain_values : ∀ type nullable, (values type nullable).isPlain = true

/-- A **kind of inline values**: one of the customary kinds, or one that is added to them. -/
inductive InlineKind
  | integer
  | real
  | truth
  | enumeration
  | date
  | text
  | custom (kind : CustomKind)

/-- The word that stands for **nothing**. -/
def nullWord : Text := "null"

/-- The words that mean **yes**. -/
def trueWords : List Text := ["true", "yes", "on"]

/-- The words that mean **no**. -/
def falseWords : List Text := ["false", "no", "off"]

/-- The **endings** of ordinal numbers. -/
def ordinalEndings : List Text := ["st", "nd", "rd", "th"]

namespace InlineKind

/-- Whether a kind **serves a type**, which is not optional. -/
def handles : InlineKind → Option ParamType → Bool
  | integer, some .int => true
  | real, some .real | real, some .decimal => true
  | truth, some .bool => true
  | enumeration, some (.enum _) => true
  | date, some .date => true
  | text, some .text => true
  | custom kind, type => kind.handles type
  | _, _ => false

/-! ### Patterns -/

/-- Decimal digits with a sign. -/
def integerPattern : Pattern := .seq (.chars .sign .maybe) (.chars .digit .some)

/-- Decimal digits with a sign and a point. -/
def realPattern : Pattern :=
  .seq (.chars .sign .maybe) (.group (.either
    (.seq (.chars .digit .some) (.optional (.seq (.literal ".") (.chars .digit .many))))
    (.seq (.literal ".") (.chars .digit .some))))

/-- A year, a month and a day between hyphens. -/
def datePattern : Pattern :=
  .sequence [.chars .digit (.exactly 4), .chars .hyphen .one, .chars .digit (.exactly 2),
    .chars .hyphen .one, .chars .digit (.exactly 2)]

/-- A text in quotation marks, or a run of characters without white space. -/
def textPattern : Pattern :=
  .oneOf [.sequence [.literal "\"", .chars .notDoubleQuote .many, .literal "\""],
    .sequence [.literal "'", .chars .notSingleQuote .many, .literal "'"],
    .chars .ink .some]

/-- A text in angle brackets. -/
def bracketedPattern : Pattern :=
  .sequence [.literal "<", .chars .notAngle .many, .literal ">"]

/-- The words of a member's name, with or **without white space** between them. -/
def memberPattern (name : Text) : Pattern :=
  .group (.sequence
    (((Text.words (phraseOf name)).map Pattern.literal).intersperse (.chars .blank .many)))

/-- What is added to a pattern for **nothing**. -/
def orNull (nullable : Bool) (null : Pattern) (patterns : List Pattern) : List Pattern :=
  if nullable then patterns ++ [null] else patterns

/-- The pattern of the values of a type, with a **capture** of the given name. -/
def pattern (kind : InlineKind) (type : Option ParamType) (nullable : Bool) (name : Text) : Pattern :=
  let null : Pattern := .literal nullWord
  let capture (patterns : List Pattern) : Pattern := .named name (.oneOf patterns)
  match kind with
  | integer =>
    .seq (capture (if nullable then [.group integerPattern, .group null] else [integerPattern]))
      (.optional (.oneOf (ordinalEndings.map .literal)))
  | real => capture (if nullable then [.group realPattern, .group null] else [realPattern])
  | truth => capture (orNull nullable null ((trueWords ++ falseWords).map .literal))
  | enumeration =>
    match type with
    | some (.enum e) =>
      capture (orNull nullable (.group null) (e.members.map fun member => memberPattern member.1))
    | _ => capture (orNull nullable (.group null) [])
  | date => capture (orNull nullable null [datePattern])
  | text => capture [textPattern]
  | custom kind => capture [kind.values type nullable]

/-! ### Readers -/

/-- Cut an **ordinal ending** off a text, where a last line feed may follow it. -/
def dropOrdinalEnding (t : Text) : Text :=
  let (stem, after) := if t.getLast? = some '\n' then (t.dropLast, ['\n']) else (t, [])
  let cut (t : Text) : Option Text :=
    ordinalEndings.findSome? fun ending =>
      let split := t.length - ending.length
      if ending.length ≤ t.length && Text.sameLetters ending (t.drop split) then some (t.take split)
      else none
  match cut stem with
  | some stem => stem ++ after
  | none => t

/-- A text **without white space** and in lower case. -/
def squash (t : Text) : Text := Text.lower (t.filter fun c => !isBlank c)

/-- The **member** of an enumeration that a text names: the first with the same letters. -/
def readMember (e : Enumeration) (t : Text) : Except ConversionFault Value :=
  match e.members.find? fun member => squash (phraseOf member.1) == squash t with
  | some member => .ok (.member member.2)
  | none => .error (.value (.notMember t e.name))

/-- The value that a **type itself** makes of a text. -/
def makeByType (type : Option ParamType) (t : Text) : Except ConversionFault Value :=
  match type with
  | some .int => Value.readInt t
  | some .real => Value.readReal t
  | some .decimal => Value.readDecimal t
  | some .bool => .ok (.bool (!t.isEmpty))
  | some .text => .ok (.text t)
  | some (.enum e) =>
    match e.texts.lookup t with
    | some member => .ok (.member member)
    | none => .error (.value (.noValueOf t e.name))
  | some (.other name) => .error (if name == "complex" then .value .notComplex else .type)
  | _ => .error .type

/-- **Read** a text as a value of a type. -/
def read (kind : InlineKind) (type : Option ParamType) (t : Text) : Except ConversionFault Value :=
  match kind with
  | integer => Value.readInt (dropOrdinalEnding t)
  | real =>
    match type with
    | some .decimal => Value.readDecimal t
    | _ => Value.readReal t
  | truth => .ok (.bool (trueWords.contains (Text.lower t)))
  | enumeration =>
    match type with
    | some (.enum e) => readMember e t
    | _ => .error .type
  | date => Value.readDate t
  | text => .ok (Value.readText t)
  | custom kind => kind.read type t

/-- A kind of values **in angle brackets**, which serves one type: they are read without the brackets, or
else made by the type itself. -/
def bracketed (served : Option ParamType) (madeByType : Bool) : InlineKind :=
  .custom
    { handles := fun type => type == served
      values := fun _ nullable => .oneOf (orNull nullable (.literal nullWord) [bracketedPattern])
      read := fun type t => if madeByType then makeByType type t else .ok (.text (t.drop 1).dropLast)
      captureNames_values := fun _ nullable => by cases nullable <;> rfl
      isPlain_values := fun _ nullable => by cases nullable <;> rfl }

end InlineKind

end PlainSpec
