import Mathlib.Data.List.Induction
import Mathlib.Data.List.Nodup
import PlainSpec.Entries

/-!
# Entries with different keys

Pairs are turned into entries one after the other, so that of several pairs with one key the last one
counts. Pairs with different keys are left as they are.

## Main results

* `Entries.ofPairs_eq_self`: pairs with different keys are the entries that they leave.
* `Entries.lookup_of_mem`: each of their keys stands for its value.
* `Entries.lookup_ofPairs`: of several pairs with one key the last one counts.
-/

namespace PlainSpec

namespace Entries

variable {α : Type}

/-- An entry is put **behind others** that do not have its key. -/
theorem put_append_of_notMem {key : Text} {value : α} {front : List (Text × α)}
    (h : key ∉ front.map Prod.fst) (rest : List (Text × α)) :
    put key value (front ++ rest) = front ++ put key value rest := by
  induction front with
  | nil => rfl
  | cons entry front ih =>
      rw [List.map_cons, List.mem_cons, not_or] at h
      rw [List.cons_append, put, if_neg (by simpa using Ne.symm h.1), ih h.2, List.cons_append]

/-- A new key comes **last**. -/
theorem put_of_notMem {key : Text} {value : α} {entries : List (Text × α)}
    (h : key ∉ entries.map Prod.fst) : put key value entries = entries ++ [(key, value)] := by
  rw [← List.append_nil entries, put_append_of_notMem h, List.append_nil, put]

/-- Pairs with **different keys** are the entries that they leave. -/
theorem ofPairs_eq_self {pairs : List (Text × α)} (h : (pairs.map Prod.fst).Nodup) :
    ofPairs pairs = pairs := by
  have hfold : ∀ rest entries : List (Text × α), ((entries ++ rest).map Prod.fst).Nodup →
      rest.foldl (fun entries pair => put pair.1 pair.2 entries) entries = entries ++ rest := by
    intro rest
    induction rest with
    | nil => simp
    | cons pair rest ih =>
        intro entries hnodup
        have hnew : pair.1 ∉ entries.map Prod.fst := by
          rw [List.map_append, List.map_cons, List.nodup_middle, List.nodup_cons] at hnodup
          exact fun hmem => hnodup.1 (List.mem_append_left _ hmem)
        rw [List.foldl_cons, put_of_notMem hnew, ih _ (by simpa using hnodup), List.append_assoc,
          List.singleton_append]
  exact hfold pairs [] h

/-- Among pairs with different keys, each key **stands for its value**. -/
theorem lookup_of_mem {pairs : List (Text × α)} (h : (pairs.map Prod.fst).Nodup) {key : Text}
    {value : α} (hmem : (key, value) ∈ pairs) : pairs.lookup key = some value := by
  induction pairs with
  | nil => exact absurd hmem List.not_mem_nil
  | cons pair rest ih =>
      rw [List.map_cons, List.nodup_cons] at h
      rcases List.mem_cons.mp hmem with rfl | hmem
      · exact List.lookup_cons_self
      · have hne : key ≠ pair.1 := fun heq =>
          h.1 (heq ▸ List.mem_map_of_mem (f := Prod.fst) hmem)
        have hdiffer : (key == pair.1) = false := beq_eq_false_iff_ne.mpr hne
        rw [List.lookup_cons, hdiffer]
        exact ih h.2 hmem

/-- The pairs with one more behind them leave the entries **with one more put**. -/
theorem ofPairs_concat (pairs : List (Text × α)) (pair : Text × α) :
    ofPairs (pairs ++ [pair]) = put pair.1 pair.2 (ofPairs pairs) := by
  rw [ofPairs, List.foldl_append]
  rfl

/-- Putting an entry **adds no key** but its own. -/
theorem mem_keys_put {key k : Text} {value : α} {entries : List (Text × α)}
    (h : k ∈ (put key value entries).map Prod.fst) : k = key ∨ k ∈ entries.map Prod.fst := by
  induction entries with
  | nil => exact .inl (by simpa [put] using h)
  | cons entry rest ih =>
      rw [put] at h
      split at h
      · exact .inr h
      · rcases List.mem_cons.mp h with rfl | h
        · exact .inr List.mem_cons_self
        · exact (ih h).imp_right (List.mem_cons_of_mem _)

/-- Putting an entry keeps the keys **different**. -/
theorem nodup_keys_put {key : Text} {value : α} {entries : List (Text × α)}
    (h : (entries.map Prod.fst).Nodup) : ((put key value entries).map Prod.fst).Nodup := by
  induction entries with
  | nil => simp [put]
  | cons entry rest ih =>
      obtain ⟨hnew, hrest⟩ := List.nodup_cons.mp h
      rw [put]
      split
      · exact h
      · next hne =>
        refine List.nodup_cons.mpr ⟨fun hmem => ?_, ih hrest⟩
        rcases mem_keys_put hmem with heq | hmem
        · exact hne (by simpa using heq)
        · exact hnew hmem

/-- The keys that pairs leave are **different**. -/
theorem nodup_keys_ofPairs (pairs : List (Text × α)) : ((ofPairs pairs).map Prod.fst).Nodup := by
  induction pairs using List.reverseRecOn with
  | nil => exact List.nodup_nil
  | append_singleton pairs pair ih =>
      rw [ofPairs_concat]
      exact nodup_keys_put ih

/-- A key stands for the value of **the last pair** that has it. -/
theorem lookup_ofPairs (pairs : List (Text × α)) (key : Text) :
    (ofPairs pairs).lookup key = pairs.reverse.lookup key := by
  induction pairs using List.reverseRecOn with
  | nil => rfl
  | append_singleton pairs pair ih =>
      rw [ofPairs_concat, lookup_put, List.reverse_append, List.reverse_singleton, List.singleton_append,
        List.lookup_cons, ih]
      cases key == pair.1 <;> rfl

/-- A key stands for a value exactly if **the last pair** with the key has it. -/
theorem lookup_ofPairs_eq_some_iff {pairs : List (Text × α)} {key : Text} {value : α} :
    (ofPairs pairs).lookup key = some value ↔
      ∃ before after, pairs = before ++ (key, value) :: after ∧ ∀ later ∈ after, later.1 ≠ key := by
  rw [lookup_ofPairs, List.lookup_eq_some_iff]
  constructor
  · rintro ⟨after, before, hsplit, hlater⟩
    refine ⟨before.reverse, after.reverse, ?_, fun later hmem => ?_⟩
    · rw [← List.reverse_reverse pairs, hsplit, List.reverse_append, List.reverse_cons, List.append_assoc,
        List.singleton_append]
    · exact (bne_iff_ne.mp (hlater later (List.mem_reverse.mp hmem))).symm
  · rintro ⟨before, after, rfl, hlater⟩
    refine ⟨after.reverse, before.reverse, ?_, fun later hmem => ?_⟩
    · rw [List.reverse_append, List.reverse_cons, List.append_assoc, List.singleton_append]
    · exact bne_iff_ne.mpr (hlater later (List.mem_reverse.mp hmem)).symm

/-- A key stands for a value that **no other pair contradicts**. -/
theorem lookup_ofPairs_of_mem {pairs : List (Text × α)} {key : Text} {value : α} (hmem : (key, value) ∈ pairs)
    (hunique : ∀ other, (key, other) ∈ pairs → other = value) : (ofPairs pairs).lookup key = some value := by
  rw [lookup_ofPairs]
  cases hlookup : pairs.reverse.lookup key with
  | none => exact absurd (List.lookup_eq_none_iff.mp hlookup _ (List.mem_reverse.mpr hmem)) (by simp)
  | some other =>
      obtain ⟨before, after, hsplit, -⟩ := List.lookup_eq_some_iff.mp hlookup
      have hother : (key, other) ∈ pairs.reverse := hsplit ▸ List.mem_append_right _ List.mem_cons_self
      rw [hunique other (List.mem_reverse.mp hother)]

end Entries

end PlainSpec
