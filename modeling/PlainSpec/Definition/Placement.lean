import PlainSpec.Failure

/-!
# Placements

Where the words of a parameter's name occur in a phrase, the value of the parameter may stand instead. A
placement chooses one occurrence for each parameter that has any; chosen occurrences must not overlap, which
is checked by sorting them and comparing each with the next one. Every placement gives one pattern. A
parameter that the phrase does not mention follows at the end, and one that has a default may be left out.
-/

namespace PlainSpec

/-- A **run of words** of a phrase, from one position up to another. -/
structure WordSpan where
  start : Nat
  stop : Nat
  deriving DecidableEq, Repr

/-- Whether a run of words **comes before** another one, or is the same: by where they start, and then by where
they stop. -/
def WordSpan.before (a b : WordSpan) : Bool := a.start < b.start || (a.start == b.start && a.stop ≤ b.stop)

/-- Put a run **in its place** among runs in order. -/
def WordSpan.insert (span : WordSpan) : List WordSpan → List WordSpan
  | [] => [span]
  | first :: rest => if span.before first then span :: first :: rest else first :: span.insert rest

/-- Runs of words **in order**. -/
def WordSpan.sort : List WordSpan → List WordSpan
  | [] => []
  | span :: rest => span.insert (sort rest)

/-- The runs of words, in lower case, that **spell a name**. -/
def occurrences (words name : List Text) : List WordSpan :=
  if name.isEmpty then []
  else ((List.range (words.length + 1 - name.length)).filter fun start =>
    (words.drop start).take name.length == name).map fun start => ⟨start, start + name.length⟩

/-- The words of a parameter's name, **in lower case**. -/
def Parameter.words (p : Parameter) : List Text := (Text.words (phraseOf p.name)).map Text.lower

/-- All ways to choose **one of each** list, the last list varying fastest. -/
def choices {α : Type} : List (List α) → List (List α)
  | [] => [[]]
  | options :: rest => options.flatMap fun option => (choices rest).map (option :: ·)

/-- The **places** where a parameter may stand: the occurrences of its name, or else the end. -/
def places (words : List Text) (p : Parameter) : List (Option WordSpan) :=
  match occurrences words p.words with
  | [] => [none]
  | spans => spans.map some

/-- Whether no run reaches **into the next one**. -/
def clearOfNext : List WordSpan → Bool
  | a :: b :: rest => a.stop ≤ b.start && clearOfNext (b :: rest)
  | [] | [_] => true

/-- Whether the chosen occurrences **do not overlap**: in order, none of them reaches into the next one. -/
def fits (choice : List (Option WordSpan)) : Bool := clearOfNext (WordSpan.sort (choice.filterMap id))

/-- The **placements** of parameters in a phrase. -/
def placements (words : List Text) (parameters : List Parameter) :
    List (List (Parameter × Option WordSpan)) :=
  ((choices (parameters.map (places words))).filter fits).map (parameters.zip ·)

/-! ### Assembling patterns -/

/-- A **part** of a phrase pattern, which may be optional. -/
structure PhrasePart where
  pattern : Pattern
  optional : Bool
  deriving DecidableEq, Repr

/-- The names of the **captures** of parameters: the parameter's name if that is an identifier, and a
name by position otherwise. -/
def captureNames (parameters : List Parameter) : Record :=
  Entries.ofPairs (parameters.zipIdx.map fun (p, index) =>
    (p.name, if isIdentifier p.name then p.name else "arg" ++ Text.ofNat index))

/-- The **part for a parameter**. -/
def parameterPart (catalog : Catalog) (names : Record) (p : Parameter) : Except Failure PhrasePart :=
  match catalog.pattern p.type ((names.lookup p.name).getD []) with
  | .ok pattern => .ok ⟨pattern, p.hasDefault⟩
  | .error fault => .error (Failure.ofInline fault)

/-- The parts for the **words of a phrase** from a position on, of which so many still belong to the
parameter before; a chosen occurrence becomes the part of its parameter. -/
def wordParts (part : Parameter → Except Failure PhrasePart)
    (placement : List (Parameter × Option WordSpan)) :
    Nat → Nat → List Text → Except Failure (List PhrasePart)
  | _, _, [] => .ok []
  | position, skip + 1, _ :: rest => wordParts part placement (position + 1) skip rest
  | position, 0, word :: rest =>
    match placement.findSome? fun (p, span) =>
        span.bind fun span => if span.start = position then some (p, span) else none with
    | some (p, span) => do
      let first ← part p
      let others ← wordParts part placement (position + 1) (span.stop - span.start - 1) rest
      return first :: others
    | none => do
      let others ← wordParts part placement (position + 1) 0 rest
      return ⟨.literal word, false⟩ :: others

/-- The **parts** of a placement: those of the words, and then those of the parameters that have no
place among them. -/
def placementParts (part : Parameter → Except Failure PhrasePart) (words : List Text)
    (placement : List (Parameter × Option WordSpan)) : Except Failure (List PhrasePart) := do
  let inPhrase ← wordParts part placement 0 0 words
  let atEnd ← (placement.filter fun entry => entry.2.isNone).mapM fun entry => part entry.1
  return inPhrase ++ atEnd

/-- A part that **follows** another one. White space separates the two; an optional part brings its own,
and after an optional first part white space may be missing. -/
def followingPatterns (afterOptionalFirst : Bool) (part : PhrasePart) : List Pattern :=
  if part.optional then [.optional (.seq (.chars .blank .some) part.pattern)]
  else [.chars .blank (if afterOptionalFirst then .many else .some), part.pattern]

/-- **Join** parts to one pattern. -/
def joinParts : List PhrasePart → Pattern
  | [] => .nothing
  | first :: rest =>
    let start : Pattern := if first.optional then .optional first.pattern else first.pattern
    match rest with
    | [] => start
    | second :: others =>
      .sequence (start :: followingPatterns first.optional second ++
        others.flatMap (followingPatterns false))

/-- The **patterns** for a phrase and the parameters that its line takes, one for each placement, in
order and without repetition. -/
def phrasePatterns (catalog : Catalog) (phrase : Text) (parameters : List Parameter) :
    Except Failure (List LinePattern) := do
  let words := Text.words phrase
  let names := captureNames parameters
  let part := parameterPart catalog names
  let patterns ← (placements (words.map Text.lower) parameters).mapM fun placement => do
    return LinePattern.mk (joinParts (← placementParts part words placement))
  return patterns.foldl (fun seen p =>
    if seen.any fun q => q.source == p.source then seen else seen ++ [p]) []

end PlainSpec
