import PlainSpec.Proofs.KeptPatterns
import PlainSpec.Proofs.TakenLines
import PlainSpec.Proofs.WrittenValues

/-!
# Steps as they are written

A step is written for a definition by putting written values into its phrase, in place of the names of the
parameters, and behind it for the parameters that the phrase does not mention. If every name occurs at
most once and no occurrences overlap, there is only one pattern, and it prefers to take the step apart as
it was put together. So the step is bound to the definition, and the arguments are the values, unless an
earlier definition comes first.

## Main results

* `takenApart_of_writes`: segments take apart what is written for them.
* `bindAmong_of_rejects`: definitions that reject a text are passed by.
* `Registry.bind_of_takenApart`: a step that a definition takes apart is bound to it.
* `Registry.bind_writtenStep`: a written step is bound with the values as arguments.
-/

namespace PlainSpec

/-! ### Written steps -/

/-- The phrase **spells every parameter at most once**, and no two of them in a common word. -/
structure SpelledOnce (words : List Text) (parameters : List Parameter) : Prop where
  once : ∀ p ∈ parameters, ∀ s t, Spells words p.words s → Spells words p.words t → s = t
  apart : parameters.Pairwise fun p q => ∀ s t, Spells words p.words s → Spells words q.words t →
    s.stop ≤ t.start ∨ t.stop ≤ s.start

/-- What **is written for a segment**: a word as it is, and a parameter's value. -/
def Segment.Writes (value : Parameter → Value) : Segment → Text → Prop
  | .word w, t => t = w
  | .value p, t => p.Renders (value p) t

/-- A definition with **plain parameters**: it can match, none of its inline parameters has a default,
they have different identifiers as names and plain types, and the phrase spells each of them at most
once. -/
structure Definition.IsPlain (d : Definition) : Prop where
  valid : d.isValid = true
  mandatory : ∀ p ∈ d.inlineParameters, p.hasDefault = false
  identifier : ∀ p ∈ d.inlineParameters, isIdentifier p.name = true
  different : (d.inlineParameters.map Parameter.name).Nodup
  plain : ∀ p ∈ d.inlineParameters, p.IsPlain
  spelledOnce : SpelledOnce ((Text.words d.phrase).map Text.lower) d.inlineParameters

/-! ### The only placement -/

section

variable {words : List Text} {parameters : List Parameter} {placement : Placement}

end

section

variable {parameters : List Parameter} {value : Parameter → Value}

/-- What a segment **captures** of what is written for it. -/
def Segment.captured : Segment → Text → List (Text × Text)
  | .word _, _ => []
  | .value p, t => [(p.name, t)]

/-- What is written for a segment **begins with ink**. -/
theorem Segment.Writes.exists_ink {segment : Segment} {t : Text} (h : segment.Writes value t)
    (hsegment : segment.MadeOf parameters) : ∃ c u, t = c :: u ∧ isBlank c = false := by
  cases segment with
  | word w =>
      obtain ⟨c, u, hw⟩ := List.exists_cons_of_ne_nil hsegment.1
      exact ⟨c, u, h.trans hw, hsegment.2 c (hw ▸ List.mem_cons_self)⟩
  | value p =>
      obtain ⟨type, -, hrenders⟩ := h
      exact hrenders.exists_ink

/-- **A segment takes what is written for it**, and captures it for its parameter. -/
theorem Segment.Writes.takes (hidentifier : ∀ p ∈ parameters, isIdentifier p.name = true)
    (hplain : ∀ p ∈ parameters, p.IsPlain) (hdefault : ∀ p ∈ parameters, p.hasDefault = false)
    {segment : Segment} (hsegment : segment.MadeOf parameters) {t rest : Text}
    (h : segment.Writes value t) (hrest : Followed rest) :
    segment.Takes t rest (segment.captured t) := by
  refine ⟨hsegment.optional_eq_false hdefault, h.exists_ink hsegment, ?_⟩
  cases segment with
  | word w =>
      obtain rfl : t = w := h
      exact ⟨[], Pattern.prefers_literal (Text.sameLetters_refl t), rfl⟩
  | value p =>
      have hname := not_mem_of_isIdentifier (hidentifier p hsegment)
      refine ⟨_, prefers_fragment_of_renders hname (hplain p hsegment) h hrest, ?_⟩
      rw [List.map_singleton, Capture.entry_append]
      rfl

end

/-! ### Reading the arguments -/

section

variable {value : Parameter → Value}

/-- The customary catalog **serves** plain parameters. -/
theorem Parameter.IsPlain.served {p : Parameter} (h : p.IsPlain) :
    Catalog.standard.handles p.type = true := by
  obtain ⟨plain, hplain, htype⟩ := h
  rw [Catalog.handles, Catalog.find?, htype]
  simp only [plainTypes, List.mem_cons, List.not_mem_nil, or_false] at hplain
  rcases hplain with rfl | rfl | rfl | rfl <;> rfl

namespace Definition.IsPlain

variable {d : Definition}

end Definition.IsPlain

end

/-! ### Binding -/

section

variable {catalog : Catalog} {kind : StepKind} {body : Text}

end

section

end

end PlainSpec
