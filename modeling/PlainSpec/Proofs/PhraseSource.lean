import PlainSpec.Proofs.Fragments
import PlainSpec.Proofs.Placement

/-!
# How the patterns of a phrase are written

The pattern of a placement is joined from one part for each segment. Patterns that are written alike are
kept only once, so it matters whether the writing tells the segments. It does: words are escaped, so that
neither white space between parts nor the opening bracket of a value is taken for a piece of a word, and a
value is written with the name of its parameter in front.

## Main results

* `escape_append_inj`: where a word ends can be told from how it is written.
* `source_joinParts_inj`: patterns of different segments are written differently.
* `collect_joinParts`, `isPlain_joinParts`: what a joined pattern holds, such as its captures, and that it is plain.
-/

namespace PlainSpec

/-! ### Words -/

/-- What may **follow a word** where a pattern is written: nothing, white space, or a bracket. -/
inductive Boundary : Text → Prop
  | nothing : Boundary []
  | blank (t : Text) : Boundary ('\\' :: 's' :: t)
  | bracket (t : Text) : Boundary ('(' :: t)

/-- A character as it is **written** in a pattern. -/
def escapeChar (c : Char) : Text := if Pattern.specialChars.contains c then ['\\', c] else [c]

/-- A word is written **character by character**. -/
theorem escape_cons (c : Char) (w : Text) :
    Pattern.escape (c :: w) = escapeChar c ++ Pattern.escape w := rfl

/-- What may follow a word **does not begin with a character** as it is written in words. -/
theorem Boundary.ne_escapeChar_append {t : Text} (h : Boundary t) (c : Char) (rest : Text) :
    t ≠ escapeChar c ++ rest := by
  unfold escapeChar
  split
  · next hc =>
    cases h with
    | nothing => simp
    | blank t =>
        rintro heq
        obtain rfl : 's' = c := (List.cons.inj (List.cons.inj heq).2).1
        exact absurd hc (by decide)
    | bracket t => simp
  · next hc =>
    cases h with
    | nothing => simp
    | blank t =>
        rintro heq
        obtain rfl : '\\' = c := (List.cons.inj heq).1
        exact absurd (by decide) hc
    | bracket t =>
        rintro heq
        obtain rfl : '(' = c := (List.cons.inj heq).1
        exact absurd (by decide) hc

/-- **A character can be told** from how it is written, whatever follows. -/
theorem escapeChar_append_inj {c d : Char} {s t : Text} (h : escapeChar c ++ s = escapeChar d ++ t) :
    c = d ∧ s = t := by
  have hspecial : Pattern.specialChars.contains '\\' = true := by decide
  unfold escapeChar at h
  split at h <;> split at h
  · simpa using h
  · next hd =>
    obtain rfl : '\\' = d := (List.cons.inj h).1
    exact absurd hspecial hd
  · next hc _ =>
    obtain rfl : c = '\\' := (List.cons.inj h).1
    exact absurd hspecial hc
  · simpa using h

/-- **Where a word ends can be told** from how it is written. -/
theorem escape_append_inj {v w s t : Text} (hs : Boundary s) (ht : Boundary t)
    (h : Pattern.escape v ++ s = Pattern.escape w ++ t) : v = w ∧ s = t := by
  induction v generalizing w with
  | nil =>
      cases w with
      | nil => exact ⟨rfl, h⟩
      | cons d w =>
          rw [escape_cons, List.append_assoc] at h
          exact absurd h (hs.ne_escapeChar_append d _)
  | cons c v ih =>
      cases w with
      | nil =>
          rw [escape_cons, List.append_assoc] at h
          exact absurd h.symm (ht.ne_escapeChar_append c _)
      | cons d w =>
          rw [escape_cons, escape_cons, List.append_assoc, List.append_assoc] at h
          obtain ⟨rfl, hrest⟩ := escapeChar_append_inj h
          obtain ⟨rfl, rfl⟩ := ih hrest
          exact ⟨rfl, rfl⟩

/-- A word is **not written like a value** or an optional part. -/
theorem escape_append_ne_bracket {w s t : Text} (hw : w ≠ []) (hs : Boundary s) :
    Pattern.escape w ++ s ≠ '(' :: t := by
  intro h
  exact hw (escape_append_inj hs (.bracket t) (w := []) h).1

/-! ### Parts of segments -/

/-- The **part** of a pattern for a segment. -/
def Segment.part : Segment → PhrasePart
  | .word w => ⟨.literal w, false⟩
  | .value p => ⟨p.fragment, p.hasDefault⟩

/-- A segment is **made of** some parameters if its value is one of theirs; words are not empty and hold no
white space. -/
def Segment.MadeOf (parameters : List Parameter) : Segment → Prop
  | .word w => w ≠ [] ∧ ∀ c ∈ w, isBlank c = false
  | .value p => p ∈ parameters

/-- Without defaults, no segment **may be left out**. -/
theorem Segment.MadeOf.optional_eq_false {parameters : List Parameter} {segment : Segment}
    (h : segment.MadeOf parameters) (hdefault : ∀ p ∈ parameters, p.hasDefault = false) :
    segment.part.optional = false := by
  cases segment with
  | word w => rfl
  | value p => exact hdefault p h

section

variable {parameters : List Parameter} {a b : Segment} {s t : Text}

/-- What stands **in front of the first** occurrence of a character can be told. -/
theorem eq_of_append_cons_eq {c : Char} {x y v w : Text} (hx : c ∉ x) (hy : c ∉ y)
    (h : x ++ c :: v = y ++ c :: w) : x = y := by
  have htake : ∀ u rest : Text, c ∉ u → (u ++ c :: rest).takeWhile (· != c) = u := by
    intro u rest hu
    have hall : ∀ d ∈ u, (d != c) = true := by
      intro d hd
      rw [bne_iff_ne]
      rintro rfl
      exact hu hd
    rw [List.takeWhile_append_of_pos hall]
    simp
  rw [← htake x v hx, h, htake y w hy]

/-- The fragments of two parameters **differ as they are written**. -/
theorem source_fragment_append_inj (h : RegularParameters parameters) {p q : Parameter}
    (hp : p ∈ parameters) (hq : q ∈ parameters)
    (heq : p.fragment.source ++ s = q.fragment.source ++ t) : p = q ∧ s = t := by
  obtain ⟨v, hv⟩ := h.source_fragment hp
  obtain ⟨w, hw⟩ := h.source_fragment hq
  have hnames : p.name ++ '>' :: (v ++ s) = q.name ++ '>' :: (w ++ t) := by
    rw [hv, hw] at heq
    simpa using heq
  obtain rfl := h.eq_of_name hp hq
    (eq_of_append_cons_eq (h.bracket_notMem hp) (h.bracket_notMem hq) hnames)
  exact ⟨rfl, List.append_cancel_left heq⟩

/-- **Segments can be told** from how their parts are written. -/
theorem source_part_append_inj (h : RegularParameters parameters) (ha : a.MadeOf parameters)
    (hb : b.MadeOf parameters) (hs : Boundary s) (ht : Boundary t)
    (heq : a.part.pattern.source ++ s = b.part.pattern.source ++ t) : a = b ∧ s = t := by
  cases a with
  | word v =>
      cases b with
      | word w =>
          obtain ⟨rfl, rfl⟩ := escape_append_inj hs ht heq
          exact ⟨rfl, rfl⟩
      | value q =>
          obtain ⟨tail, hq⟩ := h.source_fragment hb
          exact absurd (heq.trans (congrArg (· ++ t) hq)) (escape_append_ne_bracket ha.1 hs)
  | value p =>
      cases b with
      | word w =>
          obtain ⟨tail, hp⟩ := h.source_fragment ha
          exact absurd (heq.symm.trans (congrArg (· ++ s) hp)) (escape_append_ne_bracket hb.1 ht)
      | value q =>
          obtain ⟨rfl, rfl⟩ := source_fragment_append_inj h ha hb heq
          exact ⟨rfl, rfl⟩

/-! ### Joined parts -/

/-- The **first part** of a joined pattern. -/
def PhrasePart.leading (part : PhrasePart) : Pattern :=
  if part.optional then .optional part.pattern else part.pattern

/-- The parts **behind the first**, which may be optional. -/
def followers (afterOptional : Bool) : List PhrasePart → List Pattern
  | [] => []
  | part :: rest => followingPatterns afterOptional part ++ followers false rest

/-- Parts behind the second one all follow **in the same way**. -/
theorem followers_false (parts : List PhrasePart) :
    followers false parts = parts.flatMap (followingPatterns false) := by
  induction parts with
  | nil => rfl
  | cons part rest ih => rw [followers, ih, List.flatMap_cons]

/-- Joined parts are a **sequence**: the first part, and then the others. -/
theorem joinParts_cons (first : PhrasePart) (rest : List PhrasePart) :
    joinParts (first :: rest) = .sequence (first.leading :: followers first.optional rest) := by
  cases rest with
  | nil => rfl
  | cons second others =>
      rw [followers, followers_false]
      rfl

/-- What follows a part is a **boundary** where it is written. -/
theorem boundary_source_followers (afterOptional : Bool) (parts : List PhrasePart) {rest : Text}
    (hrest : Boundary rest) :
    Boundary ((followers afterOptional parts).flatMap Pattern.source ++ rest) := by
  cases parts with
  | nil => exact hrest
  | cons part others =>
      rw [followers, followingPatterns]
      split
      · exact .bracket _
      · exact .blank _

/-- An optional part is **not written like a segment** that has to be there. -/
theorem source_optional_append_ne (h : RegularParameters parameters) (hb : b.MadeOf parameters)
    (ht : Boundary t) (p : Pattern) :
    p.optional.source ++ s ≠ b.part.pattern.source ++ t := by
  intro heq
  cases b with
  | word w => exact escape_append_ne_bracket hb.1 ht heq.symm
  | value q =>
      obtain ⟨tail, hq⟩ := h.source_fragment hb
      have hopen := heq.trans (congrArg (· ++ t) hq)
      exact absurd (List.cons.inj (List.cons.inj (List.cons.inj hopen).2).2).1 (by decide)

/-- **Optional parts can be told** from how they are written. -/
theorem source_optional_append_inj (h : RegularParameters parameters) (ha : a.MadeOf parameters)
    (hb : b.MadeOf parameters) (hoa : a.part.optional = true) (hob : b.part.optional = true)
    (heq : a.part.pattern.source ++ s = b.part.pattern.source ++ t) : a = b ∧ s = t := by
  cases a with
  | word v => exact absurd hoa Bool.false_ne_true
  | value p =>
      cases b with
      | word w => exact absurd hob Bool.false_ne_true
      | value q =>
          obtain ⟨rfl, hrest⟩ := source_fragment_append_inj h ha hb heq
          exact ⟨rfl, hrest⟩

/-- **A first part can be told** from how it is written. -/
theorem source_leading_append_inj (h : RegularParameters parameters) (ha : a.MadeOf parameters)
    (hb : b.MadeOf parameters) (hs : Boundary s) (ht : Boundary t)
    (heq : a.part.leading.source ++ s = b.part.leading.source ++ t) : a = b ∧ s = t := by
  unfold PhrasePart.leading at heq
  split at heq <;> split at heq
  · next hoa hob =>
    rw [Pattern.source_optional, Pattern.source_optional] at heq
    simp only [List.append_assoc] at heq
    obtain ⟨rfl, hrest⟩ :=
      source_optional_append_inj h ha hb hoa hob (List.append_cancel_left heq)
    exact ⟨rfl, List.append_cancel_left hrest⟩
  · exact absurd heq (source_optional_append_ne h hb ht _)
  · exact absurd heq.symm (source_optional_append_ne h ha hs _)
  · exact source_part_append_inj h ha hb hs ht heq

/-- How an **optional part** that follows is written. -/
theorem source_following_of_optional {part : PhrasePart} (h : part.optional = true)
    (afterOptional : Bool) :
    (followingPatterns afterOptional part).flatMap Pattern.source =
      "(?:\\s+" ++ (part.pattern.source ++ ")?") := by
  rw [followingPatterns, if_pos h, List.flatMap_singleton]
  simp [CharKind.source, Quantity.source]

/-- How a part that follows **and has to be there** is written. -/
theorem source_following_of_mandatory {part : PhrasePart} (h : ¬ part.optional = true)
    (afterOptional : Bool) :
    (followingPatterns afterOptional part).flatMap Pattern.source =
      "\\s" ++ ((if afterOptional then Quantity.many else Quantity.some).source ++
        part.pattern.source) := by
  rw [followingPatterns, if_neg h]
  simp [CharKind.source]

/-- **A part that follows can be told** from how it is written. -/
theorem source_following_append_inj (h : RegularParameters parameters) (ha : a.MadeOf parameters)
    (hb : b.MadeOf parameters) (hs : Boundary s) (ht : Boundary t) {afterOptional : Bool}
    (heq : (followingPatterns afterOptional a.part).flatMap Pattern.source ++ s =
      (followingPatterns afterOptional b.part).flatMap Pattern.source ++ t) : a = b ∧ s = t := by
  by_cases hoa : a.part.optional = true
  · rw [source_following_of_optional hoa] at heq
    by_cases hob : b.part.optional = true
    · rw [source_following_of_optional hob] at heq
      simp only [List.append_assoc] at heq
      obtain ⟨rfl, hrest⟩ :=
        source_optional_append_inj h ha hb hoa hob (List.append_cancel_left heq)
      exact ⟨rfl, List.append_cancel_left hrest⟩
    · rw [source_following_of_mandatory hob] at heq
      exact absurd (List.cons.inj heq).1 (by decide)
  · rw [source_following_of_mandatory hoa] at heq
    by_cases hob : b.part.optional = true
    · rw [source_following_of_optional hob] at heq
      exact absurd (List.cons.inj heq).1 (by decide)
    · rw [source_following_of_mandatory hob] at heq
      simp only [List.append_assoc] at heq
      exact source_part_append_inj h ha hb hs ht
        (List.append_cancel_left (List.append_cancel_left heq))

/-- What follows is written as **nothing** only if nothing follows. -/
theorem source_following_ne_nil (afterOptional : Bool) (part : PhrasePart) (t : Text) :
    (followingPatterns afterOptional part).flatMap Pattern.source ++ t ≠ [] := by
  by_cases h : part.optional = true
  · rw [source_following_of_optional h]
    exact List.cons_ne_nil _ _
  · rw [source_following_of_mandatory h]
    exact List.cons_ne_nil _ _

/-- **All parts that follow can be told** from how they are written. -/
theorem source_followers_inj (h : RegularParameters parameters) {as bs : List Segment}
    (has : ∀ a ∈ as, a.MadeOf parameters) (hbs : ∀ b ∈ bs, b.MadeOf parameters)
    {afterOptional : Bool}
    (heq : (followers afterOptional (as.map Segment.part)).flatMap Pattern.source =
      (followers afterOptional (bs.map Segment.part)).flatMap Pattern.source) : as = bs := by
  induction as generalizing bs afterOptional with
  | nil =>
      cases bs with
      | nil => rfl
      | cons b bs =>
          rw [List.map_cons, followers, List.flatMap_append] at heq
          exact absurd heq.symm (source_following_ne_nil _ _ _)
  | cons a as ih =>
      cases bs with
      | nil =>
          rw [List.map_cons, followers, List.flatMap_append] at heq
          exact absurd heq (source_following_ne_nil _ _ _)
      | cons b bs =>
          obtain ⟨ha, harest⟩ := List.forall_mem_cons.mp has
          obtain ⟨hb, hbrest⟩ := List.forall_mem_cons.mp hbs
          rw [List.map_cons, List.map_cons, followers, followers, List.flatMap_append,
            List.flatMap_append] at heq
          have hboundary : ∀ parts, Boundary ((followers false parts).flatMap Pattern.source) := by
            intro parts
            simpa using boundary_source_followers false parts .nothing
          obtain ⟨rfl, hrest⟩ :=
            source_following_append_inj h ha hb (hboundary _) (hboundary _) heq
          exact congrArg (a :: ·) (ih harest hbrest hrest)

/-- A first part is written as **something**. -/
theorem source_leading_ne_nil (h : RegularParameters parameters) (ha : a.MadeOf parameters)
    (t : Text) : a.part.leading.source ++ t ≠ [] := by
  unfold PhrasePart.leading
  split
  · exact List.cons_ne_nil _ _
  · cases a with
    | word w =>
        intro heq
        exact ha.1 (escape_append_inj .nothing .nothing (w := [])
          (congrArg (· ++ []) (List.append_eq_nil_iff.mp heq).1)).1
    | value p =>
        obtain ⟨tail, hp⟩ := h.source_fragment ha
        show p.fragment.source ++ t ≠ []
        rw [hp]
        exact List.cons_ne_nil _ _

/-- **Patterns of different segments are written differently.** -/
theorem source_joinParts_inj (h : RegularParameters parameters) {as bs : List Segment}
    (has : ∀ a ∈ as, a.MadeOf parameters) (hbs : ∀ b ∈ bs, b.MadeOf parameters)
    (heq : (joinParts (as.map Segment.part)).source = (joinParts (bs.map Segment.part)).source) :
    as = bs := by
  cases as with
  | nil =>
      cases bs with
      | nil => rfl
      | cons b bs =>
          rw [List.map_cons, joinParts_cons, Pattern.source_sequence, List.flatMap_cons] at heq
          exact absurd heq.symm (source_leading_ne_nil h (hbs b List.mem_cons_self) _)
  | cons a as =>
      obtain ⟨ha, harest⟩ := List.forall_mem_cons.mp has
      cases bs with
      | nil =>
          rw [List.map_cons, joinParts_cons, Pattern.source_sequence, List.flatMap_cons] at heq
          exact absurd heq (source_leading_ne_nil h ha _)
      | cons b bs =>
          obtain ⟨hb, hbrest⟩ := List.forall_mem_cons.mp hbs
          rw [List.map_cons, List.map_cons, joinParts_cons, joinParts_cons, Pattern.source_sequence,
            Pattern.source_sequence, List.flatMap_cons, List.flatMap_cons] at heq
          have hboundary : ∀ afterOptional parts,
              Boundary ((followers afterOptional parts).flatMap Pattern.source) := by
            intro afterOptional parts
            simpa using boundary_source_followers afterOptional parts .nothing
          obtain ⟨rfl, hrest⟩ :=
            source_leading_append_inj h ha hb (hboundary _ _) (hboundary _ _) heq
          exact congrArg (a :: ·) (source_followers_inj h harest hbrest hrest)

end

/-! ### What joined parts hold -/

section

variable {α : Type} {collect : Pattern → List α}

/-- What is collected from parts that follow is collected **from each of them**. -/
theorem collect_followers (h : Pattern.Collects collect) (afterOptional : Bool) (parts : List PhrasePart) :
    (followers afterOptional parts).flatMap collect = parts.flatMap fun part => collect part.pattern := by
  induction parts generalizing afterOptional with
  | nil => rfl
  | cons part rest ih =>
      rw [followers, List.flatMap_append, List.flatMap_cons, ih, followingPatterns]
      split <;> simp [h.chars, h.seq, h.optional]

/-- What is collected from joined parts is collected **from each part**. -/
theorem collect_joinParts (h : Pattern.Collects collect) (parts : List PhrasePart) :
    collect (joinParts parts) = parts.flatMap fun part => collect part.pattern := by
  cases parts with
  | nil => exact h.nothing
  | cons part rest =>
      rw [joinParts_cons, h.sequence, List.flatMap_cons, List.flatMap_cons, collect_followers h, PhrasePart.leading]
      split
      · rw [h.optional]
      · rfl

end

/-- Parts that follow are plain if **they are on their own**. -/
theorem isPlain_followers (afterOptional : Bool) (parts : List PhrasePart) :
    (followers afterOptional parts).all Pattern.isPlain = parts.all (·.pattern.isPlain) := by
  induction parts generalizing afterOptional with
  | nil => rfl
  | cons part rest ih =>
      rw [followers, List.all_append, List.all_cons, ih, followingPatterns]
      split <;> simp [Pattern.isPlain]

/-- Joined parts are plain if **the parts** are. -/
theorem isPlain_joinParts (parts : List PhrasePart) :
    (joinParts parts).isPlain = parts.all (·.pattern.isPlain) := by
  cases parts with
  | nil => rfl
  | cons part rest =>
      rw [joinParts_cons, Pattern.isPlain_sequence, List.all_cons, List.all_cons, isPlain_followers,
        PhrasePart.leading]
      split <;> rfl

end PlainSpec
