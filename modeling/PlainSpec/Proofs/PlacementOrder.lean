import Mathlib.Data.List.Lex
import PlainSpec.Proofs.PhrasePatterns

/-!
# The order of placements

The patterns of a phrase are tried in the order in which its placements are listed: parameters count in the order in
which they are declared, and for each of them an earlier occurrence of its name comes first. This module gives the
patterns of a phrase as a list: which placements there are and in which order, that no two patterns are written
alike, and what each pattern is made of.

## Main results

* `choices_pairwise`: choices are listed in lexicographic order.
* `literals_placementPattern`: the pattern of a placement writes out its segments.
* `Segmentation.words_eq`: the words that a placement leaves.
* `phrasePatterns_listed`: the patterns of a phrase, in order.
-/

namespace PlainSpec

/-! ### Order -/

/-- A place **comes before** another one if both are occurrences and it begins earlier. -/
def Earlier (a b : Option WordSpan) : Prop := ∃ s t, a = some s ∧ b = some t ∧ s.start < t.start

/-- A placement comes before another one **in lexicographic order** of the places. -/
def Placement.Before (a b : Placement) : Prop := List.Lex Earlier (a.map Prod.snd) (b.map Prod.snd)

/-- Occurrences are listed **from left to right**. -/
theorem occurrences_pairwise (words name : List Text) :
    (occurrences words name).Pairwise fun s t => s.start < t.start := by
  unfold occurrences
  split
  · exact .nil
  · exact List.pairwise_map.mpr (List.pairwise_lt_range.filter _)

/-- Places are listed **from left to right**. -/
theorem places_pairwise (words : List Text) (p : Parameter) : (places words p).Pairwise Earlier := by
  have hsorted := occurrences_pairwise words p.words
  unfold places
  split
  · exact List.pairwise_singleton _ _
  · exact List.pairwise_map.mpr (hsorted.imp fun {s t} hst => ⟨s, t, rfl, rfl, hst⟩)

/-- **Choices are listed in lexicographic order**, if the options are listed in order. -/
theorem choices_pairwise {α : Type} {r : α → α → Prop} {lists : List (List α)}
    (h : ∀ options ∈ lists, options.Pairwise r) : (choices lists).Pairwise (List.Lex r) := by
  induction lists with
  | nil => exact List.pairwise_singleton _ _
  | cons options rest ih =>
      obtain ⟨hoptions, hrest⟩ := List.forall_mem_cons.mp h
      refine List.pairwise_flatMap.mpr ⟨fun option _ => ?_, hoptions.imp fun {a b} hab => ?_⟩
      · exact List.pairwise_map.mpr ((ih hrest).imp fun hlex => .cons hlex)
      · intro x hx y hy
        obtain ⟨others, -, rfl⟩ := List.mem_map.mp hx
        obtain ⟨others', -, rfl⟩ := List.mem_map.mp hy
        exact .rel hab

/-- **Placements are listed in lexicographic order.** -/
theorem placements_pairwise (words : List Text) (parameters : List Parameter) :
    (placements words parameters).Pairwise Placement.Before := by
  have hchoices : (choices (parameters.map (places words))).Pairwise (List.Lex Earlier) := by
    refine choices_pairwise fun options hoptions => ?_
    obtain ⟨p, -, rfl⟩ := List.mem_map.mp hoptions
    exact places_pairwise words p
  have hsnd : ∀ choice ∈ choices (parameters.map (places words)), (parameters.zip choice).map Prod.snd = choice := by
    intro choice hchoice
    have hlength := (mem_choices_iff.mp hchoice).length_eq
    rw [List.length_map] at hlength
    exact List.map_snd_zip hlength.le
  refine List.pairwise_map.mpr ((hchoices.filter fits).imp_of_mem fun {a b} ha hb hab => ?_)
  rw [Placement.Before, hsnd a (List.mem_of_mem_filter ha), hsnd b (List.mem_of_mem_filter hb)]
  exact hab

/-! ### Words that stay -/

/-- The words that are **written out** in a pattern, from left to right. -/
def Pattern.literals : Pattern → List Text
  | nothing | chars _ _ => []
  | literal word | verbatim word => [word]
  | seq first second | either first second => first.literals ++ second.literals
  | group inner | optional inner | capture _ inner => inner.literals

/-- The words that are **written out for a segment**: a word of the phrase is itself, and the fragment of a value may
write out words of its type. -/
def Segment.literals : Segment → List Text
  | .word w => [w]
  | .value p => p.fragment.literals

/-- The **word** of a segment. -/
def Segment.word? : Segment → Option Text
  | .word w => some w
  | .value _ => none

/-- Whether **no chosen run** covers a position. -/
def Placement.leaves (placement : Placement) (position : Nat) : Bool :=
  placement.all fun entry => entry.2.all fun span => position < span.start || span.stop ≤ position

/-- The **words that a placement leaves**, in the order of the phrase. -/
def Placement.wordsLeft (placement : Placement) (words : List Text) : List Text :=
  (words.zipIdx.filter fun entry => placement.leaves entry.2).map Prod.fst

section

variable {lowered words : List Text} {parameters : List Parameter} {placement : Placement}

/-- **The pattern of a placement writes out its segments**, once each and in order. -/
theorem literals_placementPattern :
    (placementPattern words placement).inner.literals = (segmentsOf words placement).flatMap Segment.literals := by
  have hcollects : Pattern.Collects Pattern.literals :=
    ⟨rfl, fun _ _ => rfl, fun _ _ => rfl, fun _ => rfl⟩
  rw [placementPattern, collect_joinParts hcollects, List.flatMap_map]
  refine List.flatMap_congr fun segment _ => ?_
  cases segment <;> rfl

/-- A position is left **exactly if it is in none** of the chosen runs. -/
theorem leaves_iff {position : Nat} : placement.leaves position = true ↔
    ∀ p span, (p, some span) ∈ placement → ¬ (span.start ≤ position ∧ position < span.stop) := by
  rw [Placement.leaves, List.all_eq_true]
  constructor
  · intro h p span hmem hcover
    have hspan := h _ hmem
    simp only [Option.all_some, Bool.or_eq_true, decide_eq_true_eq] at hspan
    omega
  · rintro h ⟨p, _ | span⟩ hmem
    · rfl
    · have hfree := h p span hmem
      simp only [Option.all_some, Bool.or_eq_true, decide_eq_true_eq]
      omega

/-- **The words of the segments** from a position on are those that the placement leaves there. The run of a value is
passed over as a whole. -/
theorem Segmentation.words_eq (h : IsPlacement lowered parameters placement) {i : Nat} {segments : List Segment}
    (hs : Segmentation words placement i segments) :
    segments.filterMap Segment.word? =
      ((words.zipIdx.drop i).filter fun entry => placement.leaves entry.2).map Prod.fst := by
  induction hs with
  | stop hi =>
      rw [List.drop_eq_nil_of_le (by rw [List.length_zipIdx, hi])]
      rfl
  | @value i p span rest hmem hstart _ ih =>
      have hlt := h.start_lt_stop hmem
      have hcut : words.zipIdx.drop i =
          (words.zipIdx.drop i).take (span.stop - i) ++ words.zipIdx.drop span.stop := by
        conv_lhs => rw [← List.take_append_drop (span.stop - i) (words.zipIdx.drop i)]
        rw [List.drop_drop, show i + (span.stop - i) = span.stop by omega]
      have hcovered : ((words.zipIdx.drop i).take (span.stop - i)).filter
          (fun entry => placement.leaves entry.2) = [] := by
        refine List.filter_eq_nil_iff.mpr fun entry hentry hleaves => ?_
        obtain ⟨n, hn⟩ := List.mem_iff_getElem?.mp hentry
        rw [List.getElem?_take] at hn
        split at hn
        · next hrun =>
          rw [List.getElem?_drop, List.getElem?_zipIdx, Nat.zero_add] at hn
          obtain ⟨w, -, rfl⟩ := Option.map_eq_some_iff.mp hn
          exact leaves_iff.mp hleaves p span hmem ⟨by omega, by omega⟩
        · exact absurd hn (by simp)
      rw [hcut, List.filter_append, hcovered, List.nil_append, ← ih]
      rfl
  | @word i w rest hword hfree _ ih =>
      obtain ⟨hlt, rfl⟩ := List.getElem?_eq_some_iff.mp hword
      have hcut : words.zipIdx.drop i = (words[i], i) :: words.zipIdx.drop (i + 1) := by
        rw [List.drop_eq_getElem_cons (by rwa [List.length_zipIdx]), List.getElem_zipIdx, Nat.zero_add]
      have hleft : placement.leaves i = true := leaves_iff.mpr hfree
      rw [hcut, List.filter_cons, if_pos hleft, List.map_cons, ← ih]
      rfl

/-- **The words of a phrase under a placement** are those that it leaves, once each and in order. -/
theorem IsPlacement.words_segmentsOf (h : IsPlacement lowered parameters placement)
    (hlen : lowered.length = words.length) :
    (segmentsOf words placement).filterMap Segment.word? = placement.wordsLeft words := by
  have hend : ((placement.filter fun entry => entry.2.isNone).map fun entry =>
      Segment.value entry.1).filterMap Segment.word? = [] := by
    rw [List.filterMap_map, List.filterMap_eq_nil_iff]
    exact fun entry _ => rfl
  rw [segmentsOf, List.filterMap_append, hend, List.append_nil, (segmentation_segments h hlen).words_eq h]
  rfl

end

/-! ### The patterns in order -/

/-- **The patterns of a phrase, in order.** With regular parameters there is one pattern for each way to choose an
occurrence of every parameter whose name the phrase spells, if the chosen runs do not overlap. They are listed in
lexicographic order, where parameters count in the order of their declaration and earlier occurrences come first, and
no two of them are written alike. Each pattern captures every parameter once. It writes out its segments one after
the other, and the words among them are those outside the chosen runs, once each and in the order of the phrase. -/
theorem phrasePatterns_listed {parameters : List Parameter} (h : RegularParameters parameters) (phrase : Text) :
    ∃ listed : List Placement,
      phrasePatterns Catalog.standard phrase parameters =
        .ok (listed.map (placementPattern (Text.words phrase))) ∧
      (∀ placement, placement ∈ listed ↔
        IsPlacement ((Text.words phrase).map Text.lower) parameters placement) ∧
      listed.Pairwise Placement.Before ∧
      (listed.map fun placement => (placementPattern (Text.words phrase) placement).source).Nodup ∧
      ∀ placement ∈ listed,
        (placementPattern (Text.words phrase) placement).inner.captureNames.Perm (parameters.map Parameter.name) ∧
        (placementPattern (Text.words phrase) placement).inner.literals =
          (segmentsOf (Text.words phrase) placement).flatMap Segment.literals ∧
        (segmentsOf (Text.words phrase) placement).filterMap Segment.word? =
          placement.wordsLeft (Text.words phrase) := by
  refine ⟨placements ((Text.words phrase).map Text.lower) parameters, phrasePatterns_eq h, fun _ => mem_placements_iff,
    placements_pairwise _ _, ?_, fun placement hplacement => ?_⟩
  · refine (placements_nodup _ _).map_on fun a ha b hb heq => ?_
    exact source_placementPattern_inj h (mem_placements_iff.mp ha) (mem_placements_iff.mp hb) heq
  · have hp := mem_placements_iff.mp hplacement
    refine ⟨?_, literals_placementPattern, hp.words_segmentsOf (List.length_map _)⟩
    rw [placementPattern, ← Segment.partBy_part]
    exact h.capturesByName.captureNames_placement h.nodup hp

/-- A name that **occurs twice** in a phrase, and a parameter that the phrase does not mention. -/
theorem phrasePatterns_listed_boxes :
    let parameters : List Parameter := [⟨"box", some .int, false⟩, ⟨"weight", some .decimal, true⟩]
    RegularParameters parameters ∧ ∃ listed : List Placement,
      phrasePatterns Catalog.standard "Move box to the BOX" parameters =
        .ok (listed.map (placementPattern (Text.words "Move box to the BOX"))) ∧
      parameters.zip [some ⟨1, 2⟩, none] ∈ listed ∧ parameters.zip [some ⟨4, 5⟩, none] ∈ listed ∧
      listed.Pairwise Placement.Before := by
  intro parameters
  have hregular : RegularParameters parameters := ⟨by decide, by decide, by decide⟩
  obtain ⟨listed, hpatterns, hlisted, hbefore, -⟩ := phrasePatterns_listed hregular "Move box to the BOX"
  have hplaced : ∀ (index : Nat) (placement : Placement),
      (placements ((Text.words "Move box to the BOX").map Text.lower) parameters)[index]? = some placement →
        placement ∈ listed := by
    intro index placement hindex
    exact (hlisted placement).mpr (mem_placements_iff.mp (List.mem_of_getElem? hindex))
  exact ⟨hregular, listed, hpatterns, hplaced 0 _ rfl, hplaced 1 _ rfl, hbefore⟩

end PlainSpec
