import PlainSpec.Text.Basic

/-!
# Entries under keys

A record, a mapping, a namespace and a file tree are all lists of entries in which every key stands once.
Setting the entry of a key leaves the order of the keys alone; a new key comes last.

## Main results

* `lookup_put`: what a key stands for after an entry has been set.
* `lookup_filter`: what a key stands for among the entries of some of the keys.
-/

namespace PlainSpec

/-- An ordered list of **entries** under keys. -/
abbrev Entries (α : Type) := List (Text × α)

namespace Entries

variable {κ α : Type} [BEq κ]

/-- Set the entry of a key: in its place if the key is there, **at the end** otherwise. Of two keys that
count as equal the first one stays. -/
def put (key : κ) (value : α) : List (κ × α) → List (κ × α)
  | [] => [(key, value)]
  | (k, v) :: rest => if k == key then (k, value) :: rest else (k, v) :: put key value rest

/-- The entries that a list of pairs leaves; of several values of a key the **last** one counts. -/
def ofPairs (pairs : List (κ × α)) : List (κ × α) :=
  pairs.foldl (fun entries pair => put pair.1 pair.2 entries) []

theorem lookup_put [EquivBEq κ] (key k : κ) (value : α) (entries : List (κ × α)) :
    (put key value entries).lookup k = if k == key then some value else entries.lookup k := by
  induction entries with
  | nil => by_cases h : k == key <;> simp [put, List.lookup_cons, h]
  | cons entry rest ih =>
    obtain ⟨k', v⟩ := entry
    unfold put
    by_cases h' : k' == key
    · have hk : (k == k') = (k == key) := BEq.congr_right h'
      by_cases h : k == key <;> simp [h', List.lookup_cons, hk, h]
    · by_cases h : k == k'
      · have hk : (k == key) = (k' == key) := BEq.congr_left h
        simp [h', List.lookup_cons, h, hk]
      · simp [h', List.lookup_cons, h, ih]

/-- Among the entries of some of the keys, **these keys** stand for what they did, and others for nothing. -/
theorem lookup_filter [LawfulBEq κ] (p : κ → Bool) (key : κ) (entries : List (κ × α)) :
    (entries.filter fun entry => p entry.1).lookup key = if p key then entries.lookup key else none := by
  induction entries with
  | nil => simp
  | cons entry rest ih =>
    obtain ⟨k, v⟩ := entry
    rw [List.filter_cons, List.lookup_cons]
    by_cases hkey : key = k
    · subst hkey
      by_cases h : p key <;> simp [h, ih]
    · by_cases h : p k <;> simp [h, List.lookup_cons, beq_eq_false_iff_ne.mpr hkey, ih]

end Entries

end PlainSpec
