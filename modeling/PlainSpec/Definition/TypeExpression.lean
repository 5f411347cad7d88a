import PlainSpec.Definition.TypeNames
import PlainSpec.Failure

/-!
# Type expressions

An annotation may be written as an expression: a name, a type with others in brackets, or types joined by
bars. What a name stands for depends on the module; where it stands for nothing, the expression has no
meaning, and other expressions are no types at all.
-/

namespace PlainSpec

/-- A **type expression**. -/
inductive TypeExpression
  | name (name : Text)
  | member (owner : TypeExpression) (name : Text)
  | quoted (text : Text)
  | number (digits : Text)
  | dots
  | applied (head : TypeExpression) (arguments : List TypeExpression)
  | either (first second : TypeExpression)
  deriving Repr

namespace TypeExpression

/-! ### Reading -/

/-- Drop the **blanks** in front. -/
def dropBlanks (t : Text) : Text := t.dropWhile fun c => c == ' ' || c == '\t' || c == '\n'

/-- The words that are **no names**. -/
def reservedWords : List Text :=
  (["and", "as", "assert", "async", "await", "break", "class", "continue", "def", "del", "elif", "else",
   "except", "finally", "for", "from", "global", "if", "import", "in", "is", "lambda", "nonlocal", "not", "or",
   "pass", "raise", "return", "try", "while", "with", "yield"] : List String).map String.toList

/-- The **name** in front. -/
def leadingName? (t : Text) : Option (Text × Text) :=
  let name := t.takeWhile continuesIdentifier
  if isIdentifier name && !reservedWords.contains name then some (name, t.drop name.length) else none

/-- A **name, a number, dots or a text** in quotation marks. -/
def atom? (t : Text) : Option (TypeExpression × Text) :=
  match t with
  | '.' :: '.' :: '.' :: rest => some (dots, rest)
  | c :: rest =>
    if c = '\'' || c = '"' then
      let inner := rest.takeWhile (· != c)
      if inner.length < rest.length then some (quoted inner, rest.drop (inner.length + 1)) else none
    else if c.isDigit then
      let digits := t.takeWhile Char.isDigit
      some (number digits, t.drop digits.length)
    else (leadingName? t).map fun (found, rest) => (name found, rest)
  | [] => none

mutual

/-- The **expression** in front, and what follows it. -/
def read? : Nat → Text → Option (TypeExpression × Text)
  | 0, _ => none
  | fuel + 1, t => (part? fuel t).bind fun (first, rest) => others? fuel first rest

/-- The expressions that are **joined by bars** to one. -/
def others? : Nat → TypeExpression → Text → Option (TypeExpression × Text)
  | 0, _, _ => none
  | fuel + 1, first, t =>
    match dropBlanks t with
    | '|' :: rest => (part? fuel rest).bind fun (second, rest) => others? fuel (either first second) rest
    | _ => some (first, t)

/-- A **part** that no bars divide. -/
def part? : Nat → Text → Option (TypeExpression × Text)
  | 0, _ => none
  | fuel + 1, t =>
    match dropBlanks t with
    | '(' :: rest =>
      (read? fuel rest).bind fun (inner, rest) =>
        match dropBlanks rest with
        | ')' :: rest => rest? fuel inner rest
        | _ => none
    | t => (atom? t).bind fun (head, rest) => rest? fuel head rest

/-- The **brackets and members** behind a part. -/
def rest? : Nat → TypeExpression → Text → Option (TypeExpression × Text)
  | 0, _, _ => none
  | fuel + 1, head, t =>
    match dropBlanks t with
    | '[' :: rest =>
      (arguments? fuel rest).bind fun (arguments, rest) => rest? fuel (applied head arguments) rest
    | '.' :: rest =>
      (leadingName? (dropBlanks rest)).bind fun (found, rest) => rest? fuel (member head found) rest
    | _ => some (head, t)

/-- The expressions **between brackets**; a comma may follow the last one. -/
def arguments? : Nat → Text → Option (List TypeExpression × Text)
  | 0, _ => none
  | fuel + 1, t =>
    (read? fuel t).bind fun (first, rest) =>
      match dropBlanks rest with
      | ']' :: rest => some ([first], rest)
      | ',' :: rest =>
        match dropBlanks rest with
        | ']' :: rest => some ([first], rest)
        | rest => (arguments? fuel rest).map fun (others, rest) => (first :: others, rest)
      | _ => none

end

/-- The expression that a **whole text** is. -/
def ofText? (t : Text) : Option TypeExpression :=
  if t.head? == some ' ' || t.head? == some '\t' then none
  else match read? (4 * t.length + 4) t with
    | some (found, rest) => if (dropBlanks rest).isEmpty then some found else none
    | none => none

end TypeExpression

/-! ### Meaning -/

/-- What an expression **is good for**: to be joined or to take types in brackets, to be joined only, as
one of several types, or neither. -/
inductive TypeRole
  | type
  | generic
  | nothing
  | joined (members : List (ParamType × Text))
  | value
  deriving Repr

/-- The **meaning** of an expression: a type, and how that is shown. -/
structure TypeMeaning where
  type : ParamType
  written : Text
  role : TypeRole
  deriving Repr

/-- The **meanings of names**. -/
abbrev TypeScope := Text → Option TypeMeaning

namespace TypeMeaning

/-- The meaning of a **type** with a name. -/
def ofType (name : Text) (type : ParamType) : TypeMeaning := ⟨type, name, .type⟩

/-- The meaning of what is **no type**. -/
def ofValue (name : Text) : TypeMeaning := ⟨.other name, name, .value⟩

/-- The meaning of a name that **need not be defined**. -/
def known? : TypeScope := fun name =>
  match valueTypes.lookup name with
  | some type => some (ofType name type)
  | none =>
    if name == "None" then some ⟨.nothing, name, .nothing⟩
    else if otherTypes.contains name then some (ofType name (.other name))
    else match otherTypeNames.lookup name with
      | some other => some (ofType other (.other other))
      | none => if otherNames.contains name then some (ofValue name) else none

/-- The **members** that a meaning brings to a union. -/
def members (m : TypeMeaning) : List (ParamType × Text) :=
  match m.role with
  | .joined members => members
  | _ => [(m.type, m.written)]

/-- Two meanings **joined** by a bar, equal members once. -/
def join (first second : TypeMeaning) : Except AnnotationFault TypeMeaning :=
  match first.role, second.role with
  | .value, _ | _, .value | .nothing, .nothing => .error .misused
  | _, _ =>
    let all := (first.members ++ second.members).foldl
      (fun seen m => if seen.any fun other => other.2 == m.2 then seen else seen ++ [m]) []
    match all with
    | [m] => .ok ⟨m.1, m.2, .generic⟩
    | _ =>
      let written := Text.join " | " (all.map Prod.snd)
      .ok ⟨.barred (all.map Prod.fst) written, written, .joined all⟩

/-- A type with others **in brackets**, which stays what it is. -/
def apply (head : TypeMeaning) (arguments : List TypeMeaning) : Except AnnotationFault TypeMeaning :=
  match head.role with
  | .type =>
    if genericTypes.contains head.written then
      .ok ⟨head.type, head.written ++ "[" ++ Text.join ", " (arguments.map written) ++ "]", .generic⟩
    else .error .misused
  | _ => .error .misused

end TypeMeaning

namespace TypeExpression

mutual

/-- The **meaning** of an expression. A text in quotation marks is read as an expression in its turn, unless
it is joined to another one. -/
def meaning (scope : TypeScope) : Nat → TypeExpression → Except AnnotationFault TypeMeaning
  | 0, _ => .error .malformed
  | fuel + 1, e =>
    match e with
    | name n =>
      match scope n with
      | some m => .ok m
      | none => .error .unknownName
    | member owner _ => (meaning scope fuel owner).bind fun _ => .error .unknownMember
    | quoted t =>
      match ofText? t with
      | some inner => meaning scope fuel inner
      | none => .error .malformed
    | number digits => .ok (TypeMeaning.ofValue digits)
    | dots => .ok ⟨.other "Ellipsis", "...", .value⟩
    | applied head arguments => do
      let head ← meaning scope fuel head
      head.apply (← meanings scope fuel arguments)
    | either first second => do
      let a ← partMeaning scope fuel first
      let b ← partMeaning scope fuel second
      a.join b

/-- The meaning of a part that is **joined** to another one. -/
def partMeaning (scope : TypeScope) : Nat → TypeExpression → Except AnnotationFault TypeMeaning
  | 0, _ => .error .malformed
  | fuel + 1, e =>
    match e with
    | quoted t => .ok (TypeMeaning.ofValue t)
    | e => meaning scope fuel e

/-- The meanings of **several expressions**. -/
def meanings (scope : TypeScope) : Nat → List TypeExpression → Except AnnotationFault (List TypeMeaning)
  | 0, _ => .error .malformed
  | _ + 1, [] => .ok []
  | fuel + 1, e :: rest => do
    let first ← meaning scope fuel e
    let others ← meanings scope fuel rest
    return first :: others

end

end TypeExpression

/-- The type that an annotation **spells**. -/
def typeOfAnnotation (scope : TypeScope) (t : Text) : Except AnnotationFault ParamType :=
  match TypeExpression.ofText? t with
  | some e => (e.meaning scope (4 * t.length + 4)).map TypeMeaning.type
  | none => .error .malformed

end PlainSpec
