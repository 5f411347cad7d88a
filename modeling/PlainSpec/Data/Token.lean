import PlainSpec.Data.Passage

/-!
# Tokens of written data

Written data is cut into tokens: the marks that lists and mappings are made of, the names and tags of values,
and texts. A mapping may begin with a key of which only the colon behind it tells that it is one; a list or
mapping that is written by indentation ends where a line is indented less. Such keys, beginnings and ends
become tokens of their own.
-/

namespace PlainSpec

/-- What the **head of a document** says: the version of the notation, a short form for tags, or anything
else. -/
inductive Directive
  | version (major : Text)
  | tag (handle : Text) (beginning : Text)
  | other
  deriving DecidableEq, Repr

/-- A **token** of written data. -/
inductive Token
  | directive (directive : Directive)
  | documentStart
  | documentEnd
  | openList
  | closeList
  | openMapping
  | closeMapping
  | comma
  | startList
  | startMapping
  | endBlock
  | item
  | key
  | value
  | alias (name : Text)
  | anchor (name : Text)
  | tag (handle : Option Text) (suffix : Text)
  | text (isPlain : Bool) (text : Text)
  deriving DecidableEq, Repr

/-! ### Names and tags -/

namespace Place

/-- Whether a character may stand in a **name**. -/
def isNameChar (c : Char) : Bool := c.isAlphanum || c == '-' || c == '_'

/-- The **name** of a value, the place being behind its mark; and the place behind it. -/
def valueName (p : Place) : Except DataFault (Text × Place) :=
  let name := p.leading isNameChar
  let p := p.skip name.length
  let ends := endsToken p.peek || p.peek.elim true fun c => "?:,]\x7d%@\x60".toList.contains c
  if name.isEmpty || !ends then .error .malformed else .ok (name, p)

/-- Whether a character may stand in a **tag**. -/
def isTagChar (c : Char) : Bool := c.isAlphanum || "-;/?:@&=+$,_.!~*'()[]".toList.contains c

/-- The bytes of **escapes** in front, each a percent sign and two hexadecimal digits. -/
def percentBytes : Text → Option (List UInt8)
  | '%' :: a :: b :: rest =>
    if isHexDigit a && isHexDigit b then
      (percentBytes rest).map (UInt8.ofNat (16 * digitValue a + digitValue b) :: ·)
    else none
  | '%' :: _ => none
  | _ => some []

/-- The **text of a tag** at a place, and the place behind it. -/
def tagText : Nat → Place → Except DataFault (Text × Place)
  | 0, _ => .error .malformed
  | fuel + 1, p =>
    if p.isAt '%' then
      match percentBytes p.rest with
      | none => .error .malformed
      | some bytes =>
        match String.fromUTF8? ⟨bytes.toArray⟩ with
        | none => .error .malformed
        | some s => (tagText fuel (p.skip (3 * bytes.length))).map fun (t, p) => (s.toList ++ t, p)
    else
      let part := p.leading isTagChar
      if part.isEmpty then .ok ([], p)
      else (tagText fuel (p.skip part.length)).map fun (t, p) => (part ++ t, p)

/-- A tag's text that is **not empty**. -/
def someTagText (fuel : Nat) (p : Place) : Except DataFault (Text × Place) :=
  (tagText fuel p).bind fun (t, p) => if t.isEmpty then .error .malformed else .ok (t, p)

/-- The **handle** of a tag: an exclamation mark, or a name between two of them. -/
def tagHandle (p : Place) : Except DataFault (Text × Place) :=
  if !p.isAt '!' then .error .malformed
  else if p.next.isAt ' ' then .ok (['!'], p.next)
  else
    let name := p.next.leading isNameChar
    if (p.skip (name.length + 1)).isAt '!' then .ok ('!' :: name ++ ['!'], p.skip (name.length + 2))
    else .error .malformed

/-- The **tag** at a place, and the place behind it. -/
def tag (fuel : Nat) (p : Place) : Except DataFault (Token × Place) := do
  let (token, p) ← match p.rest[1]? with
    | some '<' => do
      let (t, p) ← someTagText fuel (p.skip 2)
      if p.isAt '>' then .ok (Token.tag none t, p.next) else .error .malformed
    | c =>
      if endsToken c then .ok (Token.tag none ['!'], p.next)
      else do
        let hasHandle := (p.next.leading fun c => !endsPart (some c)).contains '!'
        let (handle, p) ← if hasHandle then tagHandle p else .ok (['!'], p.next)
        let (t, p) ← someTagText fuel p
        .ok (Token.tag (some handle) t, p)
  if endsPart p.peek then return (token, p) else .error .malformed

/-! ### Directives -/

/-- A number of a **version**, and the place behind it. -/
def versionNumber (p : Place) : Except DataFault (Text × Place) :=
  let digits := p.leading Char.isDigit
  if digits.isEmpty then .error .malformed else .ok (digits, p.skip digits.length)

/-- The **directive** behind a percent sign, and the place behind its line. -/
def directive (fuel : Nat) (p : Place) : Except DataFault (Directive × Place) := do
  let name := p.leading isNameChar
  let p := p.skip name.length
  if name.isEmpty || !endsPart p.peek then .error .malformed
  let (found, p) ←
    if name == "YAML" then do
      let (major, p) ← versionNumber p.skipSpaces
      if !p.isAt '.' then .error .malformed
      let (_, p) ← versionNumber p.next
      if endsPart p.peek then .ok (Directive.version major, p) else .error .malformed
    else if name == "TAG" then do
      let (handle, p) ← tagHandle p.skipSpaces
      if !p.isAt ' ' then .error .malformed
      let (t, p) ← someTagText fuel p.skipSpaces
      if endsPart p.peek then .ok (Directive.tag handle t, p) else .error .malformed
    else .ok (Directive.other, p.skipLine)
  let p ← p.endLine
  return (found, p)

end Place

/-! ### Cutting -/

/-- A place where a **key may begin** whose colon has not been found: how many tokens stand before it, where
it is, and whether nothing but a key may stand there. -/
structure PossibleKey where
  before : Nat
  line : Nat
  column : Nat
  index : Nat
  required : Bool
  deriving Repr

/-- How **far** a key may reach. -/
def keyReach : Nat := 1024

/-- What is known **between two tokens**: the place, the tokens so far, the latest first, and their number;
the columns of the lists and mappings around that are written by indentation, the innermost first; the
possible key of the innermost brackets, and those of the brackets and the lines around them; and whether a
key may begin. -/
structure Cutting where
  place : Place
  tokens : List Token
  count : Nat
  columns : List Nat
  possible : Option PossibleKey
  outer : List (Option PossibleKey)
  keyAllowed : Bool

namespace Cutting

/-- The beginning of a **whole text**. -/
def start (t : Text) : Cutting := ⟨Place.start t, [], 0, [], none, [], true⟩

/-- Whether a place is **between brackets**. -/
def inFlow (s : Cutting) : Bool := !s.outer.isEmpty

/-- The least column of what is **further in** than the innermost list or mapping. -/
def margin (s : Cutting) : Nat := s.columns.head?.elim 0 (· + 1)

/-- Add a **token**. -/
def push (token : Token) (s : Cutting) : Cutting :=
  { s with tokens := token :: s.tokens, count := s.count + 1 }

/-- Move on to a **place**. -/
def moveTo (place : Place) (s : Cutting) : Cutting := { s with place }

/-- Add tokens **after the first** so many. -/
def insert (before : Nat) (added : List Token) (s : Cutting) : Cutting :=
  let later := s.count - before
  { s with
    tokens := s.tokens.take later ++ added.reverse ++ s.tokens.drop later
    count := s.count + added.length }

/-- The place of the **next token**, past spaces, remarks and line ends, behind which a key may begin. -/
def skipGap : Nat → Cutting → Cutting
  | 0, s => s
  | fuel + 1, s =>
    let p := s.place.skipSpaces
    let p := if p.isAt '#' then p.skipLine else p
    match p.lineBreak? with
    | some (_, p) => skipGap fuel { s with place := p, keyAllowed := s.keyAllowed || !s.inFlow }
    | none => s.moveTo p

/-- A possible key that is **still possible**: its colon has to follow on its line and within reach. -/
def fresh (place : Place) : Option PossibleKey → Except DataFault (Option PossibleKey)
  | none => .ok none
  | some key =>
    if key.line != place.line || keyReach < place.index - key.index then
      if key.required then .error .malformed else .ok none
    else .ok (some key)

/-- Give up keys that are **no longer possible**. -/
def refresh (s : Cutting) : Except DataFault Cutting := do
  let possible ← fresh s.place s.possible
  let outer ← s.outer.mapM (fresh s.place)
  return { s with possible, outer }

/-- Give up the **possible key**. -/
def dropKey (s : Cutting) : Except DataFault Cutting :=
  if s.possible.elim false PossibleKey.required then .error .malformed else .ok { s with possible := none }

/-- Note that a **key may begin** at a place, if one is allowed. At the column of the innermost list or
mapping nothing else can. -/
def noteKey (s : Cutting) : Except DataFault Cutting :=
  if s.keyAllowed then
    s.dropKey.map fun s =>
      let p := s.place
      let required := !s.inFlow && s.columns.head? == some p.column
      { s with possible := some (PossibleKey.mk s.count p.line p.column p.index required) }
  else .ok s

/-- End the lists and mappings that are written **further to the right** than a column, if there is one. -/
def closeFurther (column : Option Nat) (s : Cutting) : Cutting :=
  if s.inFlow then s
  else
    let closed := s.columns.takeWhile fun c => column.elim true (· < c)
    { s with
      tokens := closed.map (fun _ => Token.endBlock) ++ s.tokens
      count := s.count + closed.length
      columns := s.columns.drop closed.length }

/-- Whether a list or mapping **begins** at a column, and the columns with it. -/
def opens (column : Nat) (s : Cutting) : Bool := s.margin ≤ column

/-- Begin a list or mapping **at the place**, if it is further in. -/
def openHere (token : Token) (s : Cutting) : Cutting :=
  if s.opens s.place.column then push token { s with columns := s.place.column :: s.columns } else s

/-- Add a token for so many **characters**. -/
def take (size : Nat) (token : Token) (s : Cutting) : Cutting := (s.push token).moveTo (s.place.skip size)

/-- A token that stands **at the margin** between or before documents. -/
def boundary (s : Cutting) : Except DataFault Cutting :=
  (s.closeFurther none).dropKey.map fun s => { s with keyAllowed := false }

/-- An **opening** bracket. -/
def openBracket (token : Token) (s : Cutting) : Except DataFault Cutting :=
  s.noteKey.map fun s =>
    take 1 token { s with possible := none, outer := s.possible :: s.outer, keyAllowed := true }

/-- A **closing** bracket, which needs an opening one. -/
def closeBracket (token : Token) (s : Cutting) : Except DataFault Cutting :=
  match s.outer with
  | [] => .error .malformed
  | possible :: outer => .ok (take 1 token { s with possible, outer, keyAllowed := false })

/-- A **comma** between brackets. -/
def comma (s : Cutting) : Except DataFault Cutting :=
  s.dropKey.map fun s => take 1 .comma { s with keyAllowed := true }

/-- The mark of an **item** or of a key, which may begin a list or mapping. -/
def mark (start token : Token) (keyAllowed : Bool) (s : Cutting) : Except DataFault Cutting :=
  if !s.inFlow && !s.keyAllowed then .error .malformed
  else
    let s := if s.inFlow then s else s.openHere start
    s.dropKey.map fun s => take 1 token { s with keyAllowed }

/-- The colon before a **value**. The key before it, if one was possible, becomes a key. -/
def colon (s : Cutting) : Except DataFault Cutting :=
  match s.possible with
  | some key =>
    let begins := !s.inFlow && s.opens key.column
    let s := s.insert key.before (if begins then [.startMapping, .key] else [.key])
    .ok (take 1 .value
      { s with
        columns := if begins then key.column :: s.columns else s.columns
        possible := none
        keyAllowed := false })
  | none => s.mark .startMapping .value (!s.inFlow)

/-- A token that may be the **beginning of a key**. -/
def atom (read : Place → Except DataFault (Token × Place)) (s : Cutting) : Except DataFault Cutting := do
  let s ← s.noteKey
  let (token, p) ← read s.place
  return (push token { s with keyAllowed := false }).moveTo p

/-- Whether a **plain passage** begins with these characters. -/
def beginsPlain (inFlow : Bool) (c : Char) (next : Option Char) : Bool :=
  !(endsToken (some c) || "-?:,[]\x7b\x7d#&*!|>'\"%@\x60".toList.contains c) ||
    (!endsToken next && (c == '-' || (!inFlow && (c == '?' || c == ':'))))

/-- A **plain passage**; a key may begin behind it if its line has ended. -/
def plain (fuel : Nat) (s : Cutting) : Except DataFault Cutting :=
  s.noteKey.map fun s =>
    let (t, ended, p) := Place.plain s.inFlow s.margin fuel s.place
    (push (.text true t) { s with keyAllowed := ended }).moveTo p

/-- A **block** of text. -/
def block (joins : Bool) (fuel : Nat) (s : Cutting) : Except DataFault Cutting := do
  let s ← s.dropKey
  let (t, p) ← Place.block joins s.margin fuel s.place.next
  return (push (.text false t) { s with keyAllowed := true }).moveTo p

/-- The **next token**, given its first character. -/
def token (fuel : Nat) (c : Char) (s : Cutting) : Except DataFault Cutting :=
  let p := s.place
  let next := p.rest[1]?
  let atMargin := p.column == 0
  if c == '%' && atMargin then do
    let s ← s.boundary
    let (d, p) ← Place.directive fuel p.next
    return (s.push (.directive d)).moveTo p
  else if c == '-' && atMargin && p.isAtDivider '-' then s.boundary.map (take 3 .documentStart)
  else if c == '.' && atMargin && p.isAtDivider '.' then s.boundary.map (take 3 .documentEnd)
  else if c == '[' then s.openBracket .openList
  else if c == '\x7b' then s.openBracket .openMapping
  else if c == ']' then s.closeBracket .closeList
  else if c == '\x7d' then s.closeBracket .closeMapping
  else if c == ',' then s.comma
  else if c == '-' && endsToken next then s.mark .startList .item true
  else if c == '?' && (s.inFlow || endsToken next) then s.mark .startMapping .key (!s.inFlow)
  else if c == ':' && (s.inFlow || endsToken next) then s.colon
  else if c == '*' then s.atom fun p => p.next.valueName.map fun (name, p) => (.alias name, p)
  else if c == '&' then s.atom fun p => p.next.valueName.map fun (name, p) => (.anchor name, p)
  else if c == '!' then s.atom (Place.tag fuel)
  else if c == '|' && !s.inFlow then s.block false fuel
  else if c == '>' && !s.inFlow then s.block true fuel
  else if c == '\'' || c == '"' then
    s.atom fun p => (p.next.quoted c fuel).map fun (t, p) => (.text false t, p)
  else if beginsPlain s.inFlow c next then s.plain fuel
  else .error .malformed

/-- **All tokens** to come. -/
def run : Nat → Cutting → Except DataFault Cutting
  | 0, _ => .error .malformed
  | fuel + 1, s => do
    let s ← (s.skipGap (fuel + 1)).refresh
    let s := s.closeFurther (some s.place.column)
    match s.place.peek with
    | none => (s.closeFurther none).dropKey
    | some c => run fuel (← s.token (fuel + 1) c)

end Cutting

namespace Token

/-- The **tokens** of a text, which a byte order mark may open. -/
def ofText (t : Text) : Except DataFault (List Token) :=
  let start := Cutting.start t
  let start := if start.place.isAt byteOrderMark then start.moveTo start.place.next else start
  (Cutting.run (t.length + 1) start).map fun s => s.tokens.reverse

end Token

end PlainSpec
