import PlainSpec.Text.Basic

/-!
# Texts cut into parts

A text is cut at the characters of a class, which are left out. The parts are what stands between them, so no part
holds one, and put one after the other they are all other characters of the text.

## Main results

* `splitOn_append`: a separator cuts a text in two.
* `splitOn_join`: joined parts are cut apart again.
* `not_of_mem_splitOn`, `flatten_splitOn`: what parts are made of.
-/

namespace PlainSpec

namespace Text

variable {p : Char → Bool}

/-- Parts are put in front of others **behind the first character** as well. -/
theorem consHead_append {c : Char} {parts : List Text} (hne : parts ≠ []) (others : List Text) :
    consHead c (parts ++ others) = consHead c parts ++ others := by
  obtain ⟨part, parts, rfl⟩ := List.exists_cons_of_ne_nil hne
  rfl

/-- A separator **cuts a text in two**. -/
theorem splitOn_append {c : Char} (hc : p c = true) (t rest : Text) :
    splitOn p (t ++ c :: rest) = splitOn p t ++ splitOn p rest := by
  induction t with
  | nil => simp [splitOn, hc]
  | cons d t ih =>
      rw [List.cons_append, splitOn, splitOn, ih]
      split
      · rfl
      · exact consHead_append (splitOn_ne_nil p t) _

/-- A text that holds no separator is **one part**. -/
theorem splitOn_eq_self {t : Text} (ht : ∀ d ∈ t, p d = false) : splitOn p t = [t] := by
  induction t with
  | nil => rfl
  | cons d t ih =>
      obtain ⟨hd, ht⟩ := List.forall_mem_cons.mp ht
      rw [splitOn, if_neg (by simp [hd]), ih ht, consHead]

/-- A part that holds no separator is **cut off** at the first one. -/
theorem splitOn_append_cons {t rest : Text} {c : Char} (ht : ∀ d ∈ t, p d = false) (hc : p c = true) :
    splitOn p (t ++ c :: rest) = t :: splitOn p rest := by
  rw [splitOn_append hc, splitOn_eq_self ht, List.singleton_append]

/-- **Joined parts are cut apart again**, if no separator is in them. -/
theorem splitOn_join {c : Char} (hc : p c = true) {ts : List Text} (hne : ts ≠ [])
    (hts : ∀ t ∈ ts, ∀ d ∈ t, p d = false) : splitOn p (join [c] ts) = ts := by
  induction ts with
  | nil => exact absurd rfl hne
  | cons t ts ih =>
      obtain ⟨ht, hrest⟩ := List.forall_mem_cons.mp hts
      cases ts with
      | nil => exact splitOn_eq_self ht
      | cons u ts =>
          rw [join_cons_cons, List.append_assoc, List.singleton_append, splitOn_append_cons ht hc,
            ih (List.cons_ne_nil _ _) hrest]

/-- No part holds **a separator**. -/
theorem not_of_mem_splitOn {t part : Text} (h : part ∈ splitOn p t) : ∀ c ∈ part, p c = false := by
  induction t generalizing part with
  | nil =>
      obtain rfl := List.mem_singleton.mp h
      exact fun _ hc => absurd hc (by simp)
  | cons d t ih =>
      rw [splitOn] at h
      split at h
      · rcases List.mem_cons.mp h with rfl | h
        · exact fun _ hc => absurd hc (by simp)
        · exact ih h
      · next hd =>
        obtain ⟨first, more, hsplit⟩ := List.exists_cons_of_ne_nil (splitOn_ne_nil p t)
        rw [hsplit, consHead] at h
        rcases List.mem_cons.mp h with rfl | h
        · exact List.forall_mem_cons.mpr ⟨by simpa using hd, ih (hsplit ▸ List.mem_cons_self)⟩
        · exact ih (hsplit ▸ List.mem_cons_of_mem _ h)

/-- A character that is no separator **goes to the last part**. -/
theorem splitOn_concat {c : Char} (hc : p c = false) (t : Text) :
    ∃ parts last, splitOn p t = parts ++ [last] ∧ splitOn p (t ++ [c]) = parts ++ [last ++ [c]] := by
  induction t with
  | nil => exact ⟨[], [], rfl, by simp [splitOn, hc, consHead]⟩
  | cons d t ih =>
      obtain ⟨parts, last, hsplit, hconcat⟩ := ih
      rw [List.cons_append, splitOn, splitOn, hsplit, hconcat]
      split
      · exact ⟨[] :: parts, last, rfl, rfl⟩
      · cases parts with
        | nil => exact ⟨[], d :: last, rfl, rfl⟩
        | cons part parts => exact ⟨(d :: part) :: parts, last, rfl, rfl⟩

/-- A character in front of the first part is **in front of all parts**. -/
theorem flatten_consHead (c : Char) (parts : List Text) : (consHead c parts).flatten = c :: parts.flatten := by
  cases parts <;> rfl

/-- The parts of a text **one after the other** are the text without the characters that it is split at. -/
theorem flatten_splitOn (p : Char → Bool) (t : Text) : (splitOn p t).flatten = t.filter fun c => !p c := by
  induction t with
  | nil => rfl
  | cons c t ih =>
      unfold splitOn
      split
      · next hc => rw [List.flatten_cons, ih, List.filter_cons_of_neg (by simp [hc]), List.nil_append]
      · next hc => rw [flatten_consHead, ih, List.filter_cons_of_pos (by simp [hc])]

/-- The characters of a part are **those of the text**. -/
theorem mem_of_mem_splitOn {t part : Text} (h : part ∈ splitOn p t) {c : Char} (hc : c ∈ part) : c ∈ t := by
  have hflat : c ∈ (splitOn p t).flatten := List.mem_flatten.mpr ⟨part, h, hc⟩
  rw [flatten_splitOn] at hflat
  exact (List.mem_filter.mp hflat).1

end Text

end PlainSpec
