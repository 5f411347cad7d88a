import PlainSpec.Text.Blank
import PlainSpec.Text.Case
import PlainSpec.Text.Digit
import PlainSpec.Text.Word

/-!
# Patterns

A pattern describes the texts that a part of a step may be. It is written as a regular expression in the
customary notation; letters are compared without regard to case. Repetition applies to single characters
only, so that every pattern has a size and matching is a recursion on it.
-/

namespace PlainSpec

/-- The **kinds of characters** that patterns repeat. -/
inductive CharKind
  | digit
  | blank
  | ink
  | sign
  | hyphen
  | notDoubleQuote
  | notSingleQuote
  | notAngle
  deriving DecidableEq, Repr

namespace CharKind

/-- Whether a character **is of a kind**. -/
def holds : CharKind → Char → Bool
  | digit, c => isDecimalDigit c
  | blank, c => isBlank c
  | ink, c => !isBlank c
  | sign, c => c == '-' || c == '+'
  | hyphen, c => c == '-'
  | notDoubleQuote, c => c != '"'
  | notSingleQuote, c => c != '\''
  | notAngle, c => c != '<' && c != '>'

/-- How a kind of characters is **written**. -/
def source : CharKind → Text
  | digit => "\\d"
  | blank => "\\s"
  | ink => "\\S"
  | sign => "[-+]"
  | hyphen => "-"
  | notDoubleQuote => "[^\"]"
  | notSingleQuote => "[^']"
  | notAngle => "[^<>]"

end CharKind

/-- **How many** characters of a kind stand in a row. -/
inductive Quantity
  | one
  | maybe
  | many
  | some
  | exactly (n : Nat)
  deriving DecidableEq, Repr

/-- How a quantity is **written**. -/
def Quantity.source : Quantity → Text
  | one => []
  | maybe => "?"
  | many => "*"
  | some => "+"
  | exactly n => '\x7b' :: Text.ofNat n ++ ['\x7d']

/-- A **pattern**. -/
inductive Pattern
  | nothing
  | literal (word : Text)
  | verbatim (word : Text)
  | chars (kind : CharKind) (quantity : Quantity)
  | seq (first second : Pattern)
  | either (first second : Pattern)
  | group (inner : Pattern)
  | optional (inner : Pattern)
  | capture (name : Text) (inner : Pattern)
  deriving DecidableEq, Repr

namespace Pattern

/-- The patterns one **after the other**. -/
def sequence : List Pattern → Pattern
  | [] => nothing
  | [p] => p
  | p :: rest => seq p (sequence rest)

/-- **One of** several patterns, earlier ones first. -/
def oneOf : List Pattern → Pattern
  | [] => nothing
  | [p] => p
  | p :: rest => either p (oneOf rest)

/-- The characters that have a **meaning of their own** where a pattern is written. -/
def specialChars : Text := "()[]\x7b\x7d?*+-|^$\\.&~# \t\n\r\x0b\x0c"

/-- A word as it is **written** in a pattern. -/
def escape (word : Text) : Text :=
  word.flatMap fun c => if specialChars.contains c then ['\\', c] else [c]

/-- How a pattern is **written**. -/
def source : Pattern → Text
  | nothing => []
  | literal word => escape word
  | verbatim word => word
  | chars kind quantity => kind.source ++ quantity.source
  | seq first second => first.source ++ second.source
  | either first second => first.source ++ "|" ++ second.source
  | group inner => "(?:" ++ inner.source ++ ")"
  | optional inner => "(?:" ++ inner.source ++ ")?"
  | capture name inner => "(?P<" ++ name ++ ">" ++ inner.source ++ ")"

/-- The names of the **captures** of a pattern, from left to right. -/
def captureNames : Pattern → List Text
  | nothing | literal _ | verbatim _ | chars _ _ => []
  | seq first second | either first second => first.captureNames ++ second.captureNames
  | group inner | optional inner => inner.captureNames
  | capture name inner => name :: inner.captureNames

/-- The characters that do **not stand for themselves** where they are written as they are. -/
def activeChars : Text := "()[]\x7b\x7d?*+|^$\\."

/-- Whether all that is **written as it is** stands for itself. -/
def isPlain : Pattern → Bool
  | nothing | literal _ | chars _ _ => true
  | verbatim word => word.all fun c => !activeChars.contains c
  | seq first second | either first second => first.isPlain && second.isPlain
  | group inner | optional inner | capture _ inner => inner.isPlain

/-- Whether a pattern **can be used**: the names of its captures are identifiers, each used once, and all
that is written as it is stands for itself. -/
def isUsable (p : Pattern) : Bool :=
  p.captureNames.all isIdentifier && decide p.captureNames.Nodup && p.isPlain

/-- One of several patterns, with a word **written in front** of them; it belongs to the first one. -/
def lead (word : Text) : Pattern → Pattern
  | either first second => either (seq (verbatim word) first) second
  | p => seq (verbatim word) p

/-- A capture under a **name as it is written**: the name ends at the first closing angle bracket, and what
follows up to the last one belongs to the pattern. -/
def named (name : Text) (p : Pattern) : Pattern :=
  match name.dropWhile (· != '>') with
  | [] => capture name p
  | _ :: rest => capture (name.takeWhile (· != '>')) (p.lead (rest ++ ['>']))

end Pattern

end PlainSpec
