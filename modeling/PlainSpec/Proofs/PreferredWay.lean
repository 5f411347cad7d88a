import PlainSpec.Proofs.PatternLanguage

/-!
# The way that a pattern prefers

Which texts the captures of a pattern take is decided by the order of its ways: the first one counts. This
module follows this order. If every part of a pattern prefers a certain way, and the next part goes on
from there, the whole prefers the ways of its parts together; nothing has to be taken back.

## Main results

* `Prefers.seq`, `Prefers.left`, `Prefers.right`, …: the preferred way of a pattern from those of its
  parts.
* `prefers_many`, `prefers_some`: repeated characters reach as far as they can.
* `LinePattern.match?_of_prefers`: a line pattern that prefers a way to the end matches in this way.
-/

namespace PlainSpec

/-! ### Repeated characters -/

namespace CharKind

variable {kind : CharKind} {t u rest : Text} {c : Char}

/-- A text does **not begin** with a character of a kind. -/
def Stops (kind : CharKind) (t : Text) : Prop := ∀ c, t.head? = some c → kind.holds c = false

/-- Nothing begins with no character. -/
theorem stops_nil : kind.Stops [] := fun _ h => absurd h (by simp)

/-- A text does not begin with a character of a kind if **its first character** is none. -/
theorem stops_cons (h : kind.holds c = false) : kind.Stops (c :: t) := by
  rintro d ⟨⟩
  exact h

/-- Where a text does not begin with a character of the kind, **nothing is reached** but its beginning. -/
theorem reach_of_stops (h : kind.Stops t) : kind.reach t = [t] := by
  cases t with
  | nil => rfl
  | cons c t => rw [reach, if_neg (by simp [h c rfl])]

/-- Behind a character of the kind, all that can be reached from there **is reached**. -/
theorem reach_cons (h : kind.holds c = true) : kind.reach (c :: t) = (c :: t) :: kind.reach t := by
  rw [reach, if_pos h]

/-- The **last** place reached is the one where the characters of the kind end. -/
theorem getLast?_reach (hu : ∀ c ∈ u, kind.holds c = true) (hrest : kind.Stops rest) :
    (kind.reach (u ++ rest)).getLast? = some rest := by
  induction u with
  | nil => rw [List.nil_append, reach_of_stops hrest, List.getLast?_singleton]
  | cons c u ih =>
      obtain ⟨hc, hu⟩ := List.forall_mem_cons.mp hu
      rw [List.cons_append, reach_cons hc, List.getLast?_cons, ih hu]
      rfl

end CharKind

/-! ### Patterns -/

namespace Pattern

/-- A pattern **prefers** a way to match the beginning of a text if this way comes first: what it leaves
over, and what its captures take. -/
def Prefers (p : Pattern) (t rest : Text) (captures : List Capture) : Prop :=
  (p.ways t).head? = some ⟨rest, captures⟩

section

variable {p q : Pattern} {t u v rest : Text} {kind : CharKind} {c d : List Capture}

/-- A list that begins with a value is **not empty**. -/
theorem Prefers.ways_eq (h : p.Prefers t rest c) : ∃ others, p.ways t = ⟨rest, c⟩ :: others := by
  obtain ⟨others, hothers⟩ := List.head?_eq_some_iff.mp h
  exact ⟨others, hothers⟩

/-- Nothing prefers **to leave all**. -/
theorem prefers_nothing : nothing.Prefers t t [] := rfl

/-- A sequence prefers **what its parts prefer** one after the other. -/
theorem Prefers.seq (hp : p.Prefers t u c) (hq : q.Prefers u rest d) :
    (seq p q).Prefers t rest (c ++ d) := by
  obtain ⟨ps, hps⟩ := hp.ways_eq
  obtain ⟨qs, hqs⟩ := hq.ways_eq
  rw [Prefers, ways, hps, List.flatMap_cons, hqs]
  rfl

/-- The **first alternative** is preferred where it matches. -/
theorem Prefers.left (hp : p.Prefers t rest c) : (either p q).Prefers t rest c := by
  obtain ⟨ps, hps⟩ := hp.ways_eq
  rw [Prefers, ways, hps]
  rfl

/-- Where the first alternative does not match, **the second** is preferred. -/
theorem Prefers.right (hp : p.ways t = []) (hq : q.Prefers t rest c) :
    (either p q).Prefers t rest c := by
  rw [Prefers, ways, hp]
  exact hq

/-- An optional part is **taken** where it matches. -/
theorem Prefers.optional (hp : p.Prefers t rest c) : p.optional.Prefers t rest c := by
  obtain ⟨ps, hps⟩ := hp.ways_eq
  rw [Prefers, ways, hps]
  rfl

/-- An optional part that does not match is **left out**. -/
theorem prefers_optional_of_fails (hp : p.ways t = []) : p.optional.Prefers t t [] := by
  rw [Prefers, ways, hp]
  rfl

/-- A capture takes **what the pattern inside prefers**. -/
theorem Prefers.capture (hp : p.Prefers t rest c) (name : Text) :
    (capture name p).Prefers t rest (⟨name, t, rest⟩ :: c) := by
  obtain ⟨ps, hps⟩ := hp.ways_eq
  rw [Prefers, ways, hps]
  rfl

/-- Sequences of any length prefer **what their parts prefer**. -/
theorem Prefers.sequence_cons {ps : List Pattern} (hp : p.Prefers t u c)
    (hps : (sequence ps).Prefers u rest d) : (sequence (p :: ps)).Prefers t rest (c ++ d) := by
  cases ps with
  | nil =>
      obtain ⟨rfl, rfl⟩ := Way.mk.inj (Option.some.inj hps)
      rw [List.append_nil]
      exact hp
  | cons q qs => exact hp.seq hps

/-- A word matches **the same letters** up to case. -/
theorem prefers_literal {word : Text} (h : Text.sameLetters word u = true) :
    (literal word).Prefers (u ++ rest) rest [] := by
  rw [Prefers, ways, Text.afterPrefixFold?_eq_some_iff.mpr ⟨u, rfl, h⟩]
  rfl

/-- Characters of a kind, as many as there are, are taken **up to the last**. -/
theorem prefers_many (hu : ∀ c ∈ u, kind.holds c = true) (hrest : kind.Stops rest) :
    (chars kind .many).Prefers (u ++ rest) rest [] := by
  rw [Prefers, ways, CharKind.rests, List.head?_map, List.head?_reverse,
    CharKind.getLast?_reach hu hrest]
  rfl

/-- Characters of a kind, at least one, are taken **up to the last**. -/
theorem prefers_some (hne : u ≠ []) (hu : ∀ c ∈ u, kind.holds c = true) (hrest : kind.Stops rest) :
    (chars kind .some).Prefers (u ++ rest) rest [] := by
  cases u with
  | nil => exact absurd rfl hne
  | cons c u =>
      obtain ⟨hc, hu⟩ := List.forall_mem_cons.mp hu
      rw [Prefers, ways, CharKind.rests, List.cons_append, CharKind.reach_cons hc, List.drop_one,
        List.tail_cons, List.head?_map, List.head?_reverse, CharKind.getLast?_reach hu hrest]
      rfl

/-- A character of a kind that need not be there **is taken** where it is. -/
theorem prefers_maybe_cons {a : Char} (h : kind.holds a = true) :
    (chars kind .maybe).Prefers (a :: rest) rest [] := by
  have hreach : ∃ others, kind.reach rest = rest :: others := by
    cases rest with
    | nil => exact ⟨[], rfl⟩
    | cons b rest => exact ⟨_, rfl⟩
  obtain ⟨others, hothers⟩ := hreach
  rw [Prefers, ways, CharKind.rests, CharKind.reach_cons h, hothers]
  rfl

/-- Where it is not there, **nothing is taken**. -/
theorem prefers_maybe_of_stops (h : kind.Stops t) : (chars kind .maybe).Prefers t t [] := by
  rw [Prefers, ways, CharKind.rests, CharKind.reach_of_stops h]
  rfl

/-- So many characters of a kind are taken **in one way**. -/
theorem prefers_exactly (hu : ∀ c ∈ u, kind.holds c = true) :
    (chars kind (.exactly u.length)).Prefers (u ++ rest) rest [] := by
  have hreach : (kind.reach (u ++ rest))[u.length]? = some rest :=
    CharKind.reach_getElem?_iff.mpr ⟨u, rfl, rfl, hu⟩
  rw [Prefers, ways, CharKind.rests, List.head?_map, List.head?_take, if_neg (by decide),
    List.head?_drop, hreach]
  rfl

/-- A single character of a kind is taken **in one way**. -/
theorem prefers_one {a : Char} (h : kind.holds a = true) :
    (chars kind .one).Prefers (a :: rest) rest [] :=
  prefers_exactly (u := [a]) (by simpa using h)

end

end Pattern

/-! ### Lines -/

/-- A line pattern that prefers a way **to the end** matches in this way. -/
theorem LinePattern.match?_of_prefers {p : LinePattern} {t : Text} {captures : List Capture}
    (h : (Pattern.sequence [.chars .blank .many, p.inner, .chars .blank .many]).Prefers t [] captures) :
    p.match? t = some ⟨[], captures⟩ := by
  obtain ⟨others, hothers⟩ := h.ways_eq
  rw [LinePattern.match?, LinePattern.ways, hothers, List.filter_cons_of_pos (by rfl)]
  rfl

end PlainSpec
