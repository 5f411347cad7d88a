import PlainSpec.Data.Fault
import PlainSpec.Text.Basic

/-!
# Places in written data

Written data is read from place to place. What a line is indented by matters, so that a place knows its line
and column beside the text that is still to come.

## Main results

* `Place.rest_next`, `Place.rest_skip`: moving on only ever drops characters in front.
-/

namespace PlainSpec

/-- Whether a character **breaks a line** of written data. -/
def breaksLine (c : Char) : Bool := c == '\n' || c == '\u0085' || c == '\u2028' || c == '\u2029'

/-- Whether a place is at the **end of a line**, given the character there, if any. -/
def endsLine (c : Option Char) : Bool := c.elim true breaksLine

/-- Whether a place is at a **space** or the end of a line. -/
def endsPart (c : Option Char) : Bool := c.elim true fun c => breaksLine c || c == ' '

/-- Whether a place is at a **space, a tab** or the end of a line. -/
def endsToken (c : Option Char) : Bool := c.elim true fun c => breaksLine c || c == ' ' || c == '\t'

/-- The **byte order mark**, which takes no room on its line. -/
def byteOrderMark : Char := '\uFEFF'

/-- A **place** in a text: what follows it, and where it is. -/
structure Place where
  rest : Text
  line : Nat
  column : Nat
  index : Nat
  deriving DecidableEq, Repr

namespace Place

/-- The place in front of a **whole text**. -/
def start (t : Text) : Place := ⟨t, 0, 0, 0⟩

/-- The **character** at a place. -/
def peek (p : Place) : Option Char := p.rest.head?

/-- Whether a place is **in front of** a character. -/
def isAt (p : Place) (c : Char) : Bool := p.peek == some c

/-- The place **behind the character** at a place. -/
def next (p : Place) : Place :=
  match p.rest with
  | [] => p
  | c :: rest =>
    if breaksLine c then ⟨rest, p.line + 1, 0, p.index + 1⟩
    else ⟨rest, p.line, if c = byteOrderMark then p.column else p.column + 1, p.index + 1⟩

/-- The place a **number of characters** further on. -/
def skip : Nat → Place → Place
  | 0, p => p
  | n + 1, p => skip n p.next

/-- The characters at a place that **satisfy** `holds`, up to the first that does not. -/
def leading (holds : Char → Bool) (p : Place) : Text := p.rest.takeWhile holds

/-- The place behind all characters that **satisfy** `holds`. -/
def skipWhile (holds : Char → Bool) (p : Place) : Place := p.skip (p.leading holds).length

/-- The place behind all **spaces**. -/
def skipSpaces (p : Place) : Place := p.skipWhile (· == ' ')

/-- The place at the **end of the line**. -/
def skipLine (p : Place) : Place := p.skipWhile fun c => !breaksLine c

theorem rest_next (p : Place) : p.next.rest = p.rest.drop 1 := by
  obtain ⟨rest, line, column, index⟩ := p
  cases rest with
  | nil => rfl
  | cons c rest =>
    simp only [next]
    split <;> rfl

theorem rest_skip (n : Nat) (p : Place) : (p.skip n).rest = p.rest.drop n := by
  induction n generalizing p with
  | zero => rfl
  | succ n ih => simp [skip, ih, rest_next]

/-- The **line break** at a place, and the place behind it. All breaks but those of lines and paragraphs are
written as line feeds. -/
def lineBreak? (p : Place) : Option (Char × Place) :=
  match p.peek with
  | some c =>
    if breaksLine c then some (if c = '\u0085' then '\n' else c, p.next) else none
  | none => none

/-- Whether three equal **marks** stand at a place, with nothing or white space behind them. -/
def isAtDivider (mark : Char) (p : Place) : Bool :=
  p.rest.take 3 == [mark, mark, mark] && endsToken p.rest[3]?

/-- Whether a place is in front of what **divides documents**. -/
def isAtBoundary (p : Place) : Bool := p.isAtDivider '-' || p.isAtDivider '.'

/-- The place behind the **end of a line** on which only a remark is left. -/
def endLine (p : Place) : Except DataFault Place :=
  let p := p.skipSpaces
  let p := if p.isAt '#' then p.skipLine else p
  match p.lineBreak? with
  | some (_, p) => .ok p
  | none => if p.rest.isEmpty then .ok p else .error .malformed

end Place

end PlainSpec
