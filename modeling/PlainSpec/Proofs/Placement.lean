import Mathlib.Data.List.Forall2
import Mathlib.Data.List.Nodup
import Mathlib.Data.List.Pairwise
import Mathlib.Data.List.Sort
import Mathlib.Data.Option.Basic
import Mathlib.Order.Nat
import PlainSpec.Definition.Placement

/-!
# Placements of parameters in a phrase

The patterns of a phrase come from a search: all choices of one occurrence for each parameter are listed,
those whose occurrences overlap are dropped, and the words of the phrase are gone through once for each
choice that is left. This module describes the outcome of each of these steps without the search.

* `Spells`: a run of words spells a name.
* `IsPlacement`: a choice of one occurrence for each parameter whose name the phrase spells, where the
  chosen occurrences do not overlap.
* `Segmentation`: how a placement cuts a phrase into words that stay and parameters.

## Main results

* `clearOfNext_iff`, `fits_iff`: comparing each run with the next one finds every overlap.
* `mem_placements_iff`: the placements that the search lists.
* `placements_nodup`: it lists none of them twice.
* `Segmentation.unique`, `segmentation_segmentsFrom`: a placement cuts a phrase in exactly one way.
* `IsPlacement.eq_of_segmentation`: the segments tell the placement.
-/

namespace PlainSpec

/-- An **assignment of places** to parameters, in their order. -/
abbrev Placement := List (Parameter × Option WordSpan)

/-! ### Occurrences -/

/-- A run of words **spells a name**, which has to have a word. -/
structure Spells (words name : List Text) (span : WordSpan) : Prop where
  nonempty : name ≠ []
  stop_eq : span.stop = span.start + name.length
  stop_le : span.stop ≤ words.length
  spelled : (words.drop span.start).take name.length = name

/-- A run that spells a name has **at least one word**. -/
theorem Spells.start_lt_stop {words name : List Text} {span : WordSpan} (h : Spells words name span) :
    span.start < span.stop := by
  have hpos := List.length_pos_iff.mpr h.nonempty
  have := h.stop_eq
  omega

/-- The occurrences of a name are **the runs that spell it**. -/
theorem mem_occurrences_iff {words name : List Text} {span : WordSpan} :
    span ∈ occurrences words name ↔ Spells words name span := by
  unfold occurrences
  split
  · next h =>
    constructor
    · intro hspan
      exact absurd hspan List.not_mem_nil
    · intro hspan
      exact absurd (List.isEmpty_iff.mp h) hspan.nonempty
  · next h =>
    have hne : name ≠ [] := fun hnil => h (List.isEmpty_iff.mpr hnil)
    simp only [List.mem_map, List.mem_filter, List.mem_range, beq_iff_eq]
    constructor
    · rintro ⟨start, ⟨hstart, hspelled⟩, rfl⟩
      exact ⟨hne, rfl, by simp only; omega, hspelled⟩
    · intro hspan
      have hstop := hspan.stop_eq
      have hle := hspan.stop_le
      refine ⟨span.start, ⟨by omega, hspan.spelled⟩, ?_⟩
      rw [← hstop]

/-- Occurrences are listed **once each**. -/
theorem occurrences_nodup (words name : List Text) : (occurrences words name).Nodup := by
  unfold occurrences
  split
  · exact List.nodup_nil
  · refine List.Nodup.map ?_ (List.nodup_range.filter _)
    intro a b hab
    exact congrArg WordSpan.start hab

/-- The **places** of a parameter: an occurrence of its name, or no place if there is none. -/
theorem mem_places_iff {words : List Text} {p : Parameter} {place : Option WordSpan} :
    place ∈ places words p ↔
      match place with
      | some span => Spells words p.words span
      | none => ∀ span, ¬ Spells words p.words span := by
  have hmem : ∀ span, span ∈ occurrences words p.words ↔ Spells words p.words span := fun span =>
    mem_occurrences_iff
  unfold places
  rcases hocc : occurrences words p.words with _ | ⟨first, others⟩
  · rw [hocc] at hmem
    cases place with
    | none => simpa using fun span hspan => List.not_mem_nil ((hmem span).mpr hspan)
    | some span => simpa using fun hspan => List.not_mem_nil ((hmem span).mpr hspan)
  · rw [hocc] at hmem
    cases place with
    | none => simpa using ⟨first, (hmem first).mp List.mem_cons_self⟩
    | some span => simpa using hmem span

/-- Places are listed **once each**. -/
theorem places_nodup (words : List Text) (p : Parameter) : (places words p).Nodup := by
  have hnodup := occurrences_nodup words p.words
  unfold places
  split
  · exact List.nodup_singleton none
  · exact hnodup.map (Option.some_injective _)

/-! ### Choices -/

/-- A choice takes **one of each** list. -/
theorem mem_choices_iff {α : Type} {lists : List (List α)} {choice : List α} :
    choice ∈ choices lists ↔ List.Forall₂ (· ∈ ·) choice lists := by
  induction lists generalizing choice with
  | nil => simp [choices]
  | cons options rest ih =>
      simp only [choices, List.mem_flatMap, List.mem_map, ih]
      constructor
      · rintro ⟨option, hoption, others, hothers, rfl⟩
        exact .cons hoption hothers
      · intro h
        cases h with
        | cons hoption hothers => exact ⟨_, hoption, _, hothers, rfl⟩

/-- Choices from lists without repetition are listed **once each**. -/
theorem choices_nodup {α : Type} {lists : List (List α)} (h : ∀ options ∈ lists, options.Nodup) :
    (choices lists).Nodup := by
  induction lists with
  | nil => exact List.nodup_singleton []
  | cons options rest ih =>
      obtain ⟨hoptions, hrest⟩ := List.forall_mem_cons.mp h
      refine List.nodup_flatMap.mpr ⟨fun option _ => ?_, ?_⟩
      · exact (ih hrest).map (List.cons_injective)
      · refine hoptions.imp fun {a b} hab => ?_
        simp only [Function.onFun, List.disjoint_left, List.mem_map]
        rintro _ ⟨_, _, rfl⟩ ⟨_, _, heq⟩
        exact hab (List.cons.inj heq).1.symm

/-! ### Runs that do not overlap -/

/-- Two runs of words are **clear of each other** if one of them stops where the other starts, or before. -/
def WordSpan.Clear (a b : WordSpan) : Prop := a.stop ≤ b.start ∨ b.stop ≤ a.start

/-- Being clear of each other is symmetric. -/
theorem WordSpan.Clear.symm {a b : WordSpan} (h : a.Clear b) : b.Clear a := Or.symm h

/-- Two places are **apart** if they do not overlap. -/
def Apart (a b : Option WordSpan) : Prop := ∀ s ∈ a, ∀ t ∈ b, s.stop ≤ t.start ∨ t.stop ≤ s.start

/-- Being apart is symmetric. -/
theorem Apart.symm {a b : Option WordSpan} (h : Apart a b) : Apart b a :=
  fun s hs t ht => (h t ht s hs).symm

namespace WordSpan

theorem before_iff {a b : WordSpan} :
    a.before b = true ↔ a.start < b.start ∨ a.start = b.start ∧ a.stop ≤ b.stop := by
  simp [before]

/-- Of two runs, one **comes first**. -/
instance : Std.Total fun a b : WordSpan => a.before b = true :=
  ⟨fun a b => by simp only [before_iff]; omega⟩

instance : IsTrans WordSpan fun a b => a.before b = true :=
  ⟨fun a b c => by simp only [before_iff]; omega⟩

/-- Runs are put in order by **inserting one after the other**. -/
theorem sort_eq (spans : List WordSpan) : sort spans = spans.insertionSort fun a b => a.before b = true := by
  have hinsert : ∀ (span : WordSpan) (sorted : List WordSpan),
      span.insert sorted = sorted.orderedInsert (fun a b => a.before b = true) span := by
    intro span sorted
    induction sorted with
    | nil => rfl
    | cons first rest ih => rw [insert, List.orderedInsert_cons, ih]
  induction spans with
  | nil => rfl
  | cons span rest ih => rw [sort, hinsert, ih, List.insertionSort_cons]

/-- Sorting keeps **which runs there are**. -/
theorem perm_sort (spans : List WordSpan) : (sort spans).Perm spans := by
  rw [sort_eq]
  exact List.perm_insertionSort _ spans

/-- Sorted runs **start one after the other**. -/
theorem pairwise_sort (spans : List WordSpan) : (sort spans).Pairwise fun a b => a.start ≤ b.start := by
  rw [sort_eq]
  refine (List.pairwise_insertionSort _ spans).imp fun {a b} hab => ?_
  have := before_iff.mp hab
  omega

end WordSpan

/-- **Comparing each run with the next one is enough**, if every run has a word: a run that stops before the next
one starts also stops before that one stops, and so before all later ones start. -/
theorem clearOfNext_iff {spans : List WordSpan} (hwords : ∀ span ∈ spans, span.start < span.stop) :
    clearOfNext spans = true ↔ spans.Pairwise fun a b => a.stop ≤ b.start := by
  induction spans with
  | nil => simp [clearOfNext]
  | cons a rest ih =>
      obtain ⟨-, hrest⟩ := List.forall_mem_cons.mp hwords
      cases rest with
      | nil => simp [clearOfNext]
      | cons b others =>
          rw [clearOfNext, Bool.and_eq_true, decide_eq_true_eq, ih hrest, List.pairwise_cons (l := b :: others)]
          refine and_congr_left fun hothers => ⟨fun hab c hc => ?_, fun hall => hall b List.mem_cons_self⟩
          rcases List.mem_cons.mp hc with rfl | hc
          · exact hab
          · have hb := hrest b List.mem_cons_self
            have hbc := List.rel_of_pairwise_cons hothers hc
            omega

/-- **Runs in order are clear of each other** exactly if each stops before the later ones start. -/
theorem pairwise_clear_iff_of_sorted {spans : List WordSpan} (hwords : ∀ span ∈ spans, span.start < span.stop)
    (hsorted : spans.Pairwise fun a b => a.start ≤ b.start) :
    spans.Pairwise WordSpan.Clear ↔ spans.Pairwise fun a b => a.stop ≤ b.start := by
  constructor
  · intro hclear
    refine (hclear.and hsorted).imp_of_mem fun {a b} _ hb hab => ?_
    have hword := hwords b hb
    rcases hab with ⟨hstops | hstops, hstarts⟩ <;> omega
  · exact List.Pairwise.imp .inl

/-- **Chosen places fit if any two of them are apart**, although in order each is compared with the next one
only. -/
theorem fits_iff {choice : List (Option WordSpan)}
    (hwords : ∀ span, some span ∈ choice → span.start < span.stop) :
    fits choice = true ↔ choice.Pairwise Apart := by
  have hperm := WordSpan.perm_sort (choice.filterMap id)
  have hsorted : ∀ span ∈ WordSpan.sort (choice.filterMap id), span.start < span.stop := fun span hspan =>
    hwords span (by simpa using hperm.mem_iff.mp hspan)
  calc fits choice = true
    _ ↔ (WordSpan.sort (choice.filterMap id)).Pairwise fun a b : WordSpan => a.stop ≤ b.start :=
        clearOfNext_iff hsorted
    _ ↔ (WordSpan.sort (choice.filterMap id)).Pairwise WordSpan.Clear :=
        (pairwise_clear_iff_of_sorted hsorted (WordSpan.pairwise_sort _)).symm
    _ ↔ (choice.filterMap id).Pairwise WordSpan.Clear := hperm.pairwise_iff WordSpan.Clear.symm
    _ ↔ choice.Pairwise Apart := List.pairwise_filterMap

/-- Two runs that share a word **do not fit**, even if a run between them in the choice is clear of both. -/
example : fits [some ⟨0, 2⟩, some ⟨3, 4⟩, none, some ⟨1, 3⟩] = false := by decide

/-! ### Placements -/

/-- A chosen run **has a word**. -/
theorem start_lt_stop_of_mem_choices {words : List Text} {parameters : List Parameter}
    {choice : List (Option WordSpan)} (h : choice ∈ choices (parameters.map (places words))) {span : WordSpan}
    (hspan : some span ∈ choice) : span.start < span.stop := by
  obtain ⟨hlength, hplaces⟩ := List.forall₂_iff_zip.mp (mem_choices_iff.mp h)
  rw [← List.map_fst_zip hlength.le] at hspan
  obtain ⟨⟨_, options⟩, hmem, rfl⟩ := List.mem_map.mp hspan
  obtain ⟨p, -, rfl⟩ := List.mem_map.mp (List.of_mem_zip hmem).2
  exact (mem_places_iff.mp (hplaces hmem)).start_lt_stop

/-- A **placement** of parameters among words: every parameter whose name the words spell has one of the
runs that spell it, every other one has no place, and the runs do not overlap. -/
structure IsPlacement (words : List Text) (parameters : List Parameter) (placement : Placement) :
    Prop where
  parameters : placement.map Prod.fst = parameters
  spelled : ∀ p span, (p, some span) ∈ placement → Spells words p.words span
  unspelled : ∀ p, (p, none) ∈ placement → ∀ span, ¬ Spells words p.words span
  disjoint : placement.Pairwise fun a b => Apart a.2 b.2

/-- The search lists **exactly the placements**. -/
theorem mem_placements_iff {words : List Text} {parameters : List Parameter} {placement : Placement} :
    placement ∈ placements words parameters ↔ IsPlacement words parameters placement := by
  unfold placements
  simp only [List.mem_map, List.mem_filter]
  constructor
  · rintro ⟨choice, ⟨hchoice, hfits⟩, rfl⟩
    rw [fits_iff fun span hspan => start_lt_stop_of_mem_choices hchoice hspan] at hfits
    have hmem := List.forall₂_map_right_iff.mp (mem_choices_iff.mp hchoice)
    have hlen : choice.length = parameters.length := hmem.length_eq
    have hplace : ∀ p place, (p, place) ∈ parameters.zip choice → place ∈ places words p := by
      intro p place hp
      exact List.forall₂_iff_zip.mp hmem.flip |>.2 hp
    refine ⟨List.map_fst_zip hlen.ge, ?_, ?_, ?_⟩
    · intro p span hp
      exact mem_places_iff.mp (hplace p (some span) hp)
    · intro p hp
      exact mem_places_iff.mp (hplace p none hp)
    · have hsnd : (parameters.zip choice).map Prod.snd = choice := List.map_snd_zip hlen.le
      rw [← hsnd] at hfits
      exact List.pairwise_map.mp hfits
  · intro h
    have hchoice : placement.map Prod.snd ∈ choices (parameters.map (places words)) := by
      rw [mem_choices_iff, ← h.parameters, List.forall₂_map_left_iff, List.forall₂_map_right_iff,
        List.forall₂_map_right_iff, List.forall₂_same]
      rintro ⟨p, _ | span⟩ hp
      · exact mem_places_iff.mpr (h.unspelled p hp)
      · exact mem_places_iff.mpr (h.spelled p span hp)
    refine ⟨placement.map Prod.snd, ⟨hchoice, ?_⟩, ?_⟩
    · rw [fits_iff fun span hspan => start_lt_stop_of_mem_choices hchoice hspan]
      exact List.pairwise_map.mpr h.disjoint
    · exact (List.zip_of_prod h.parameters rfl).symm

/-- The search lists every placement **once**. -/
theorem placements_nodup (words : List Text) (parameters : List Parameter) :
    (placements words parameters).Nodup := by
  unfold placements
  have hchoices : (choices (parameters.map (places words))).Nodup := by
    refine choices_nodup fun options hoptions => ?_
    obtain ⟨p, -, rfl⟩ := List.mem_map.mp hoptions
    exact places_nodup words p
  refine (hchoices.filter _).map_on ?_
  intro a ha b hb hab
  have hlen : ∀ choice ∈ (choices (parameters.map (places words))).filter fits,
      choice.length ≤ parameters.length := by
    intro choice hchoice
    have hmem := (mem_choices_iff.mp (List.mem_filter.mp hchoice).1).length_eq
    rw [List.length_map] at hmem
    exact hmem.le
  rw [← List.map_snd_zip (hlen a ha), ← List.map_snd_zip (hlen b hb), hab]

namespace IsPlacement

variable {words : List Text} {parameters : List Parameter} {placement : Placement}
  {p q : Parameter} {s t : WordSpan}

/-- Runs of a placement that **overlap** are the place of one parameter. -/
theorem eq_of_overlap (h : IsPlacement words parameters placement) (hp : (p, some s) ∈ placement)
    (hq : (q, some t) ∈ placement) (hst : s.start < t.stop) (hts : t.start < s.stop) :
    p = q ∧ s = t := by
  have hsymm : Std.Symm fun a b : Parameter × Option WordSpan => Apart a.2 b.2 := ⟨fun _ _ => Apart.symm⟩
  by_contra hne
  have hapart := h.disjoint.forall hp hq (fun heq => hne (by simpa using heq)) s rfl t rfl
  omega

/-- A run of a placement **has a word**. -/
theorem start_lt_stop (h : IsPlacement words parameters placement) (hp : (p, some s) ∈ placement) :
    s.start < s.stop :=
  (h.spelled p s hp).start_lt_stop

/-- A run of a placement lies **among the words**. -/
theorem stop_le (h : IsPlacement words parameters placement) (hp : (p, some s) ∈ placement) :
    s.stop ≤ words.length :=
  (h.spelled p s hp).stop_le

/-- Every placed parameter is **one of the parameters**. -/
theorem mem_parameters (h : IsPlacement words parameters placement) {place : Option WordSpan}
    (hp : (p, place) ∈ placement) : p ∈ parameters := by
  rw [← h.parameters]
  exact List.mem_map_of_mem hp

/-- Among different parameters, each has **one place**. -/
theorem place_unique (h : IsPlacement words parameters placement) (hnodup : parameters.Nodup)
    {a b : Option WordSpan} (ha : (p, a) ∈ placement) (hb : (p, b) ∈ placement) : a = b := by
  rw [← h.parameters] at hnodup
  exact congrArg Prod.snd (List.inj_on_of_nodup_map hnodup ha hb rfl)

end IsPlacement

/-! ### Segments -/

/-- A **segment** of a phrase: a word that stays, or a parameter whose value stands there. -/
inductive Segment
  | word (word : Text)
  | value (parameter : Parameter)

/-- The **parameter** of a segment. -/
def Segment.parameter? : Segment → Option Parameter
  | .word _ => none
  | .value p => some p

/-- A parameter is **among those of segments** if and only if a value of it is among the segments. -/
theorem mem_filterMap_parameter? {p : Parameter} {segments : List Segment} :
    p ∈ segments.filterMap Segment.parameter? ↔ .value p ∈ segments := by
  rw [List.mem_filterMap]
  constructor
  · rintro ⟨segment, hsegment, hp⟩
    cases segment with
    | word w => exact absurd hp (by simp [Segment.parameter?])
    | value q => exact Option.some.inj hp ▸ hsegment
  · exact fun hp => ⟨_, hp, rfl⟩

/-- **How a placement cuts a phrase**, from a position on: a chosen occurrence is the segment of its
parameter, and each word outside of the chosen occurrences is a segment of its own. -/
inductive Segmentation (words : List Text) (placement : Placement) : Nat → List Segment → Prop
  | stop {i : Nat} : i = words.length → Segmentation words placement i []
  | value {i : Nat} {p : Parameter} {span : WordSpan} {segments : List Segment} :
      (p, some span) ∈ placement → span.start = i → Segmentation words placement span.stop segments →
      Segmentation words placement i (.value p :: segments)
  | word {i : Nat} {w : Text} {segments : List Segment} :
      words[i]? = some w →
      (∀ p span, (p, some span) ∈ placement → ¬ (span.start ≤ i ∧ i < span.stop)) →
      Segmentation words placement (i + 1) segments →
      Segmentation words placement i (.word w :: segments)

/-- The parameter whose chosen occurrence **starts at a position**, with this occurrence. -/
def placeAt? (placement : Placement) (position : Nat) : Option (Parameter × WordSpan) :=
  placement.findSome? fun (p, span) =>
    span.bind fun span => if span.start = position then some (p, span) else none

/-- The segments from a position on, **computed** by going through the words; so many words still belong
to the parameter before. -/
def segmentsFrom (placement : Placement) : Nat → Nat → List Text → List Segment
  | _, _, [] => []
  | position, skip + 1, _ :: rest => segmentsFrom placement (position + 1) skip rest
  | position, 0, word :: rest =>
    match placeAt? placement position with
    | some (p, span) =>
      .value p :: segmentsFrom placement (position + 1) (span.stop - span.start - 1) rest
    | none => .word word :: segmentsFrom placement (position + 1) 0 rest

/-- What is found at a position is a parameter **whose run starts there**. -/
theorem placeAt?_eq_some {placement : Placement} {position : Nat} {p : Parameter} {span : WordSpan}
    (h : placeAt? placement position = some (p, span)) :
    (p, some span) ∈ placement ∧ span.start = position := by
  obtain ⟨⟨q, place⟩, hmem, hfound⟩ := List.exists_of_findSome?_eq_some h
  obtain _ | s := place
  · exact absurd hfound (by simp)
  · simp only [Option.bind_some] at hfound
    split at hfound
    · next hstart =>
      obtain ⟨rfl, rfl⟩ := Prod.mk.inj (Option.some.inj hfound)
      exact ⟨hmem, hstart⟩
    · exact absurd hfound (by simp)

/-- If nothing is found at a position, **no run starts there**. -/
theorem placeAt?_eq_none {placement : Placement} {position : Nat}
    (h : placeAt? placement position = none) {p : Parameter} {span : WordSpan}
    (hmem : (p, some span) ∈ placement) : span.start ≠ position := by
  have hp := List.findSome?_eq_none_iff.mp h (p, some span) hmem
  intro hstart
  simp [hstart] at hp

section

variable {lowered words : List Text} {parameters : List Parameter} {placement : Placement}

/-- Going through the words **cuts the phrase**. The invariant is that no run covers the position reached
except from its start on. -/
theorem segmentation_segmentsFrom (h : IsPlacement lowered parameters placement)
    (hlen : lowered.length = words.length) (rest : List Text) :
    ∀ position skip, words.drop position = rest → position + skip ≤ words.length →
      (∀ p span, (p, some span) ∈ placement →
        ¬ (span.start < position + skip ∧ position + skip < span.stop)) →
      Segmentation words placement (position + skip)
        (segmentsFrom placement position skip rest) := by
  induction rest with
  | nil =>
      intro position skip hrest hle _
      have hdrop := List.drop_eq_nil_iff.mp hrest
      have hnil : segmentsFrom placement position skip [] = [] := by cases skip <;> rfl
      rw [hnil]
      exact .stop (by omega)
  | cons word rest ih =>
      intro position skip hrest hle hclear
      have hnext : words.drop (position + 1) = rest := by
        rw [← List.tail_drop, hrest, List.tail_cons]
      have hword : words[position]? = some word := by
        rw [← List.head?_drop, hrest, List.head?_cons]
      have hlt : position < words.length := (List.getElem?_eq_some_iff.mp hword).1
      cases skip with
      | succ skip =>
          have hshift : position + (skip + 1) = position + 1 + skip := by omega
          rw [hshift] at hle hclear ⊢
          exact ih (position + 1) skip hnext hle hclear
      | zero =>
          rw [Nat.add_zero] at hle hclear ⊢
          unfold segmentsFrom
          split
          · next p span hfound =>
            -- the run starts here, and the words up to its end are passed over
            obtain ⟨hmem, hstart⟩ := placeAt?_eq_some hfound
            have hlt := h.start_lt_stop hmem
            have hstop := h.stop_le hmem
            refine .value hmem hstart ?_
            have hreach : position + 1 + (span.stop - span.start - 1) = span.stop := by omega
            have hrun := ih (position + 1) (span.stop - span.start - 1) hnext (by omega) (by
              intro q t hq ht
              rw [hreach] at ht
              obtain ⟨-, rfl⟩ := h.eq_of_overlap hmem hq (by omega) (by omega)
              omega)
            rwa [hreach] at hrun
          · next hnone =>
            have hfree : ∀ p span, (p, some span) ∈ placement →
                ¬ (span.start ≤ position ∧ position < span.stop) := by
              intro p span hmem hcover
              have hstart := placeAt?_eq_none hnone hmem
              exact hclear p span hmem ⟨by omega, hcover.2⟩
            refine .word hword hfree (ih (position + 1) 0 hnext (by omega) ?_)
            intro p span hmem hcover
            exact hfree p span hmem ⟨by omega, by omega⟩

/-- The segments of a **whole phrase**. -/
theorem segmentation_segments (h : IsPlacement lowered parameters placement)
    (hlen : lowered.length = words.length) :
    Segmentation words placement 0 (segmentsFrom placement 0 0 words) :=
  segmentation_segmentsFrom h hlen words 0 0 rfl (Nat.zero_le _) (by omega)

/-- A placement cuts a phrase in **only one way**. -/
theorem Segmentation.unique (h : IsPlacement lowered parameters placement)
    (hlen : lowered.length = words.length) {i : Nat} {a b : List Segment}
    (ha : Segmentation words placement i a) (hb : Segmentation words placement i b) : a = b := by
  induction ha generalizing b with
  | stop hi =>
      cases hb with
      | stop _ => rfl
      | value hmem hstart _ =>
          have hlt := h.start_lt_stop hmem
          have hstop := h.stop_le hmem
          omega
      | word hw _ _ =>
          have hlt := (List.getElem?_eq_some_iff.mp hw).1
          omega
  | value hmem hstart _ ih =>
      have hlt := h.start_lt_stop hmem
      cases hb with
      | stop _ =>
          have hstop := h.stop_le hmem
          omega
      | value hmem' hstart' hrest' =>
          have hlt' := h.start_lt_stop hmem'
          obtain ⟨rfl, rfl⟩ := h.eq_of_overlap hmem hmem' (by omega) (by omega)
          rw [ih hrest']
      | word _ hfree _ => exact absurd ⟨hstart.le, by omega⟩ (hfree _ _ hmem)
  | word hw hfree _ ih =>
      cases hb with
      | stop _ =>
          have hlt := (List.getElem?_eq_some_iff.mp hw).1
          omega
      | value hmem hstart _ =>
          have hlt := h.start_lt_stop hmem
          exact absurd ⟨hstart.le, by omega⟩ (hfree _ _ hmem)
      | word hw' _ hrest' =>
          obtain rfl := Option.some.inj (hw.symm.trans hw')
          rw [ih hrest']

/-- A parameter among the segments has a run **from the position on**. -/
theorem Segmentation.exists_span {i : Nat} {segments : List Segment}
    (hs : Segmentation words placement i segments) (h : IsPlacement lowered parameters placement)
    {p : Parameter} (hp : .value p ∈ segments) :
    ∃ span, (p, some span) ∈ placement ∧ i ≤ span.start := by
  induction hs with
  | stop _ => exact absurd hp List.not_mem_nil
  | value hmem hstart _ ih =>
      rcases List.mem_cons.mp hp with heq | hp
      · cases heq
        exact ⟨_, hmem, hstart.ge⟩
      · obtain ⟨t, ht, hle⟩ := ih hp
        have hlt := h.start_lt_stop hmem
        exact ⟨t, ht, by omega⟩
  | word _ _ _ ih =>
      rcases List.mem_cons.mp hp with heq | hp
      · exact absurd heq (by simp)
      · obtain ⟨t, ht, hle⟩ := ih hp
        exact ⟨t, ht, by omega⟩

/-- The words among the segments are **words of the phrase**. -/
theorem Segmentation.mem_words {i : Nat} {segments : List Segment}
    (hs : Segmentation words placement i segments) {w : Text} (hw : .word w ∈ segments) :
    w ∈ words := by
  induction hs with
  | stop _ => exact absurd hw List.not_mem_nil
  | value _ _ _ ih =>
      rcases List.mem_cons.mp hw with heq | hw
      · exact absurd heq (by simp)
      · exact ih hw
  | word hword _ _ ih =>
      rcases List.mem_cons.mp hw with heq | hw
      · cases heq
        exact List.mem_of_getElem? hword
      · exact ih hw

/-- Every placed parameter **stands among the segments**. -/
theorem Segmentation.value_mem {i : Nat} {segments : List Segment}
    (hs : Segmentation words placement i segments) (h : IsPlacement lowered parameters placement)
    (hlen : lowered.length = words.length) {p : Parameter} {span : WordSpan}
    (hp : (p, some span) ∈ placement) (hi : i ≤ span.start) : .value p ∈ segments := by
  have hlt := h.start_lt_stop hp
  have hle := h.stop_le hp
  induction hs with
  | stop hstop => omega
  | @value i q s rest hq hstart _ ih =>
      by_cases hbehind : s.stop ≤ span.start
      · exact List.mem_cons_of_mem _ (ih hbehind)
      · obtain ⟨rfl, rfl⟩ := h.eq_of_overlap hq hp (by omega) (by omega)
        exact List.mem_cons_self
  | @word i w rest _ hfree _ ih =>
      have hne : span.start ≠ i := fun heq => hfree p span hp ⟨heq.le, by omega⟩
      exact List.mem_cons_of_mem _ (ih (by omega))

/-- If two placements cut a phrase alike, every run of the first **belongs to the second**. Where the
first has a parameter the second has it too, and the runs of one parameter have one length. -/
theorem Segmentation.mem_of_same {placement' : Placement} {i : Nat} {segments : List Segment}
    (h : IsPlacement lowered parameters placement) (h' : IsPlacement lowered parameters placement')
    (hlen : lowered.length = words.length) (hs : Segmentation words placement i segments)
    (hs' : Segmentation words placement' i segments) {p : Parameter} {span : WordSpan}
    (hp : (p, some span) ∈ placement) (hi : i ≤ span.start) : (p, some span) ∈ placement' := by
  induction hs with
  | stop hstop =>
      have hlt := h.start_lt_stop hp
      have hle := h.stop_le hp
      omega
  | @value i q s rest hq hstart _ ih =>
      cases hs' with
      | @value _ _ s' _ hq' hstart' hrest' =>
          have hstop := (h.spelled q s hq).stop_eq
          have hstop' := (h'.spelled q s' hq').stop_eq
          obtain rfl : s = s' := by
            cases s
            cases s'
            simp only at hstart hstart' hstop hstop'
            subst hstart hstop hstop'
            rw [hstart']
          by_cases hbehind : s.stop ≤ span.start
          · exact ih hrest' hbehind
          · obtain ⟨rfl, rfl⟩ := h.eq_of_overlap hq hp (by have := h.start_lt_stop hp; omega)
              (by omega)
            exact hq'
  | @word i w rest _ hfree _ ih =>
      cases hs' with
      | word _ _ hrest' =>
          have hlt := h.start_lt_stop hp
          have hne : span.start ≠ i := fun heq => hfree p span hp ⟨heq.le, by omega⟩
          exact ih hrest' (by omega)

/-- Placements with **the same runs** are the same. -/
theorem IsPlacement.eq_of_runs {placement' : Placement} (hnodup : parameters.Nodup)
    (h : IsPlacement lowered parameters placement) (h' : IsPlacement lowered parameters placement')
    (hmem : ∀ p span, (p, some span) ∈ placement ↔ (p, some span) ∈ placement') :
    placement = placement' := by
  have hlength : placement.length = placement'.length := by
    rw [← List.length_map Prod.fst, h.parameters, ← h'.parameters, List.length_map]
  refine List.ext_getElem hlength fun n hn hn' => ?_
  have hfst : (placement[n]).1 = (placement'[n]).1 := by
    have hn₁ : (placement.map Prod.fst)[n]? = (placement'.map Prod.fst)[n]? := by
      rw [h.parameters, h'.parameters]
    simpa [hn, hn'] using hn₁
  have ha : placement[n] ∈ placement := List.getElem_mem hn
  have hb : placement'[n] ∈ placement' := List.getElem_mem hn'
  generalize placement[n] = a at hfst ha
  generalize placement'[n] = b at hfst hb
  obtain ⟨p, x⟩ := a
  obtain ⟨q, y⟩ := b
  obtain rfl : p = q := hfst
  congr 1
  obtain _ | s := x
  · obtain _ | t := y
    · rfl
    · exact h.place_unique hnodup ha ((hmem p t).mpr hb)
  · exact h'.place_unique hnodup ((hmem p s).mp ha) hb

/-- **The segments tell the placement.** -/
theorem IsPlacement.eq_of_segmentation {placement' : Placement} {segments : List Segment}
    (hnodup : parameters.Nodup)
    (h : IsPlacement lowered parameters placement) (h' : IsPlacement lowered parameters placement')
    (hlen : lowered.length = words.length) (hs : Segmentation words placement 0 segments)
    (hs' : Segmentation words placement' 0 segments) : placement = placement' := by
  refine h.eq_of_runs hnodup h' fun p span => ⟨fun hp => ?_, fun hp => ?_⟩
  · exact hs.mem_of_same h h' hlen hs' hp (Nat.zero_le _)
  · exact hs'.mem_of_same h' h hlen hs hp (Nat.zero_le _)

/-- Among different parameters, no parameter stands **twice** among the segments. -/
theorem Segmentation.values_nodup {i : Nat} {segments : List Segment}
    (hs : Segmentation words placement i segments) (h : IsPlacement lowered parameters placement)
    (hnodup : parameters.Nodup) :
    (segments.filterMap Segment.parameter?).Nodup := by
  induction hs with
  | stop _ => exact List.nodup_nil
  | @value i p s rest hmem hstart hrest ih =>
      show (p :: rest.filterMap Segment.parameter?).Nodup
      refine List.nodup_cons.mpr ⟨fun hp => ?_, ih⟩
      obtain ⟨t, ht, hle⟩ := hrest.exists_span h (mem_filterMap_parameter?.mp hp)
      obtain rfl : s = t := Option.some.inj (h.place_unique hnodup hmem ht)
      have hlt := h.start_lt_stop hmem
      omega
  | word _ _ _ ih => exact ih

end

end PlainSpec
