import PlainSpec.Proofs.Fragments
import PlainSpec.Proofs.PatternLanguage

/-!
# Whole texts of a type

The fragment of a type, taken by itself, matches a whole text or does not, and what it captures of the text is
converted to a value. The fragments of most types are a single capture, which takes the whole text; behind the
capture of an integer an ordinal ending may follow.

## Main results

* `Pattern.captured_of_fullMatch?_capture`, `Pattern.captured_of_fullMatch?_seq`: what a match of a whole text
  captures.
* `Catalog.fullMatch?_eq`: the fragment that matches, and the kind that has made it.
* `Catalog.captured_of_fullMatch?`: a type whose fragment is a single capture takes the whole text.
* `Catalog.convert_eq`: a text that is not the word for nothing is read by the kind that serves the type.
-/

namespace PlainSpec

/-- The first way in which the fragment of a type matches a **whole text**, where the capture has the given name.
There is none either if the catalog does not serve the type. -/
def Catalog.fullMatch? (catalog : Catalog) (type : Option ParamType) (name t : Text) : Option Way :=
  match catalog.pattern type name with
  | .ok p => p.fullMatch? t
  | .error _ => none

namespace Pattern

variable {name t : Text} {inner after : Pattern} {way : Way}

/-- A capture takes what its pattern **describes**, in front of what is left. -/
theorem captured_of_mem_ways (h : way ∈ (capture name inner).ways t) :
    ∃ u, t = u ++ way.rest ∧ inner.Matches u ∧ way.captured? name = some u := by
  obtain ⟨way, hway, rfl⟩ := List.mem_map.mp h
  obtain ⟨u, hu, hmatches⟩ := mem_ways_rest_iff.mp ⟨way, hway, rfl⟩
  refine ⟨u, hu, hmatches, ?_⟩
  have htext : Capture.text ⟨name, t, way.rest⟩ = u := by
    rw [Capture.text, hu, List.length_append, Nat.add_sub_cancel, List.take_left]
  simp [Way.captured?, htext]

/-- What matches a whole text **leaves nothing**. -/
theorem mem_ways_of_fullMatch? {p : Pattern} (h : p.fullMatch? t = some way) :
    way ∈ p.ways t ∧ way.rest = [] :=
  ⟨List.mem_of_find?_eq_some h, by simpa using List.find?_some h⟩

/-- **A capture of a whole text** takes all of it. -/
theorem captured_of_fullMatch?_capture (h : (capture name inner).fullMatch? t = some way) :
    inner.Matches t ∧ way.captured? name = some t := by
  obtain ⟨hway, hrest⟩ := mem_ways_of_fullMatch? h
  obtain ⟨u, rfl, hmatches, hcaptured⟩ := captured_of_mem_ways hway
  rw [hrest, List.append_nil]
  exact ⟨hmatches, hcaptured⟩

/-- **A capture with something behind it** takes the beginning of the text. -/
theorem captured_of_fullMatch?_seq (h : (seq (capture name inner) after).fullMatch? t = some way) :
    ∃ u v, t = u ++ v ∧ inner.Matches u ∧ after.Matches v ∧ way.captured? name = some u := by
  obtain ⟨hway, hrest⟩ := mem_ways_of_fullMatch? h
  obtain ⟨first, hfirst, hway⟩ := List.mem_flatMap.mp hway
  obtain ⟨second, hsecond, rfl⟩ := List.mem_map.mp hway
  obtain ⟨u, rfl, hmatches, hcaptured⟩ := captured_of_mem_ways hfirst
  obtain ⟨v, hv, hafter⟩ := mem_ways_rest_iff.mp ⟨second, hsecond, rfl⟩
  have hleft : second.rest = [] := hrest
  rw [hleft, List.append_nil] at hv
  refine ⟨u, first.rest, rfl, hmatches, hv ▸ hafter, ?_⟩
  obtain ⟨capture, hfind, htext⟩ := Option.map_eq_some_iff.mp hcaptured
  rw [Way.captured?, List.find?_append, hfind, ← htext]
  rfl

end Pattern

namespace Catalog

variable {type : Option ParamType} {inner : Option ParamType} {nullable : Bool} {kind : InlineKind} {name t : Text}

/-- **The fragment of a type** is made by the kind that serves the type inside. -/
theorem fullMatch?_eq (htype : unwrapType type = (inner, nullable)) (hkind : standard.find? inner = some kind) :
    standard.fullMatch? type name t = (kind.pattern inner nullable name).fullMatch? t := by
  simp only [fullMatch?, pattern, htype, hkind]

/-- A text is read **by the kind that serves the type** inside, unless it is the word for nothing and the type is
optional. -/
theorem convert_eq (htype : unwrapType type = (inner, nullable)) (hkind : standard.find? inner = some kind) :
    standard.convert type (some t) = if nullable && Text.lower t == nullWord then .ok .nothing
      else (kind.read inner t).mapError .conversion := by
  simp only [convert, htype, hkind]

variable {base : ParamType}

/-- The fragment of a type that is **not optional**. -/
theorem fullMatch?_required (htype : unwrapType (some base) = (some base, false))
    (hkind : standard.find? (some base) = some kind) :
    standard.fullMatch? (some base) name t = (kind.pattern (some base) false name).fullMatch? t :=
  fullMatch?_eq htype hkind

/-- Where the fragment of a type that is not optional is a **single capture**, it takes the whole text. -/
theorem captured_of_fullMatch? {p : Pattern} {way : Way} (hname : '>' ∉ name)
    (htype : unwrapType (some base) = (some base, false)) (hkind : standard.find? (some base) = some kind)
    (hpattern : kind.pattern (some base) false name = .named name p)
    (h : standard.fullMatch? (some base) name t = some way) : p.Matches t ∧ way.captured? name = some t := by
  rw [fullMatch?_required htype hkind, hpattern, Pattern.named_eq_capture hname] at h
  exact Pattern.captured_of_fullMatch?_capture h

/-- A text is converted to a type that is **not optional** by reading it. -/
theorem convert_required (htype : unwrapType (some base) = (some base, false))
    (hkind : standard.find? (some base) = some kind) :
    standard.convert (some base) (some t) = (kind.read (some base) t).mapError .conversion := by
  rw [convert_eq htype hkind, Bool.false_and, if_neg Bool.false_ne_true]

end Catalog

end PlainSpec
