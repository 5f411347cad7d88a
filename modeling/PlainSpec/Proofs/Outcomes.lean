import Mathlib.Data.List.Forall2

/-!
# Outcomes of several steps

A step gives a result or fails. Steps that are taken one after the other succeed together if each of them does, and
then their results are those of the single steps, in order.

## Main results

* `exists_of_bind_eq_ok`, `cases_of_bind_eq_error`: what comes of two steps.
* `forall₂_of_mapM`, `mapM_eq_ok_of_forall₂`: what comes of one step for each member of a list.
* `exists_error_of_mapM`: where such steps fail, one of them does.
-/

namespace PlainSpec

/-- What comes of **two steps** comes of the second one, after the first has succeeded. -/
theorem exists_of_bind_eq_ok {ε α β : Type} {first : Except ε α} {second : α → Except ε β} {b : β}
    (h : first >>= second = .ok b) : ∃ a, first = .ok a ∧ second a = .ok b := by
  cases first with
  | error failure => exact absurd h (by simp [bind, Except.bind])
  | ok a => exact ⟨a, rfl, h⟩

/-- Where two steps **fail**, the first one does, or the second one after it. -/
theorem cases_of_bind_eq_error {ε α β : Type} {first : Except ε α} {second : α → Except ε β} {failure : ε}
    (h : first >>= second = .error failure) :
    first = .error failure ∨ ∃ a, first = .ok a ∧ second a = .error failure := by
  cases first with
  | error failure' =>
      obtain rfl := Except.error.inj h
      exact .inl rfl
  | ok a => exact .inr ⟨a, rfl, h⟩

/-- If **every step succeeds**, so do all of them together. -/
theorem mapM_eq_ok {ε α β : Type} {f : α → Except ε β} {g : α → β} {l : List α}
    (h : ∀ a ∈ l, f a = .ok (g a)) : l.mapM f = .ok (l.map g) := by
  induction l with
  | nil => rfl
  | cons a rest ih =>
      obtain ⟨ha, hrest⟩ := List.forall_mem_cons.mp h
      rw [List.mapM_cons, ha, ih hrest]
      rfl

/-- If **several steps** succeed together, then so does each of them. -/
theorem forall₂_of_mapM {ε α β : Type} {f : α → Except ε β} {l : List α} {bs : List β}
    (h : l.mapM f = .ok bs) : List.Forall₂ (fun a b => f a = .ok b) l bs := by
  induction l generalizing bs with
  | nil =>
      obtain rfl := Except.ok.inj h
      exact .nil
  | cons a rest ih =>
      rw [List.mapM_cons] at h
      obtain ⟨b, hb, h⟩ := exists_of_bind_eq_ok h
      obtain ⟨others, hothers, h⟩ := exists_of_bind_eq_ok h
      obtain rfl := Except.ok.inj h
      exact .cons hb (ih hothers)

/-- What is **the result of one** of several steps, if they succeed together. -/
theorem exists_mem_of_mapM {ε α β : Type} {f : α → Except ε β} {l : List α} {bs : List β}
    (h : l.mapM f = .ok bs) {a : α} (ha : a ∈ l) : ∃ b ∈ bs, f a = .ok b := by
  have hall := forall₂_of_mapM h
  clear h
  induction hall with
  | nil => exact absurd ha List.not_mem_nil
  | cons hb _ ih =>
      rcases List.mem_cons.mp ha with rfl | ha
      · exact ⟨_, List.mem_cons_self, hb⟩
      · obtain ⟨b, hmem, hb⟩ := ih ha
        exact ⟨b, List.mem_cons_of_mem _ hmem, hb⟩

/-- What several steps give together is **given by one of them**. -/
theorem exists_of_mem_mapM {ε α β : Type} {f : α → Except ε β} {l : List α} {bs : List β}
    (h : l.mapM f = .ok bs) {b : β} (hb : b ∈ bs) : ∃ a ∈ l, f a = .ok b := by
  have hall := forall₂_of_mapM h
  clear h
  induction hall with
  | nil => exact absurd hb List.not_mem_nil
  | cons hfirst _ ih =>
      rcases List.mem_cons.mp hb with rfl | hb
      · exact ⟨_, List.mem_cons_self, hfirst⟩
      · obtain ⟨a, hmem, ha⟩ := ih hb
        exact ⟨a, List.mem_cons_of_mem _ hmem, ha⟩

/-- What is read for each of several places **keeps their order**. -/
theorem map_fst_of_mapM {ε α β : Type} {read : α → Except ε (α × β)}
    (hread : ∀ place entry, read place = .ok entry → entry.1 = place) {places : List α}
    {found : List (α × β)} (h : places.mapM read = .ok found) : found.map Prod.fst = places := by
  have hall := forall₂_of_mapM h
  clear h
  induction hall with
  | nil => rfl
  | cons hentry _ ih => rw [List.map_cons, ih, hread _ _ hentry]

/-- If doing something with **several** things fails, then so does doing it with one of them. -/
theorem exists_error_of_mapM {ε α β : Type} {f : α → Except ε β} {l : List α} {failure : ε}
    (h : l.mapM f = .error failure) : ∃ a ∈ l, f a = .error failure := by
  induction l with
  | nil => exact absurd h (by simp [pure, Except.pure])
  | cons a rest ih =>
      rw [List.mapM_cons] at h
      cases ha : f a with
      | error cause =>
          rw [ha] at h
          obtain rfl : cause = failure := Except.error.inj h
          exact ⟨a, List.mem_cons_self, ha⟩
      | ok b =>
          cases hrest : rest.mapM f with
          | error cause =>
              rw [ha, hrest] at h
              obtain rfl : cause = failure := Except.error.inj h
              obtain ⟨c, hc, hfails⟩ := ih hrest
              exact ⟨c, List.mem_cons_of_mem _ hc, hfails⟩
          | ok bs =>
              rw [ha, hrest] at h
              exact absurd h (by simp [bind, Except.bind, pure, Except.pure])

end PlainSpec
