import Mathlib.Data.List.Induction
import PlainSpec.Data.Reader
import PlainSpec.Proofs.Outcomes

/-!
# Unambiguous data

A mapping is a list of entries, and means one value for each key. It does so if no key stands in it twice, keys that
count as equal being one key. In data that are read each mapping is put together entry by entry, and a key that is
there already gets the new value. So what is read is unambiguous, however deep its mappings are.

## Main results

* `Entries.lookup_of_distinct`: each of several different keys stands for its value.
* `Entries.put_of_lookup`, `Entries.put_of_lookup_none`: what putting an entry does to entries that have it already, or
  that lack its key.
* `Datum.unambiguous_of_ofText`: what is read from a text is unambiguous.
-/

namespace PlainSpec

namespace Entries

variable {κ α : Type} [BEq κ] {key : κ} {value : α} {entries : List (κ × α)}

/-! ### Keys that count as equal -/

/-- Entries are **distinct** if no two of their keys count as equal. -/
def Distinct (entries : List (κ × α)) : Prop := entries.Pairwise fun a b => (a.1 == b.1) = false

instance (entries : List (κ × α)) : Decidable (Distinct entries) :=
  inferInstanceAs (Decidable (List.Pairwise _ entries))

/-- Keys that count as equal **stand for the same**. -/
theorem lookup_congr [EquivBEq κ] {other : κ} (h : (key == other) = true) (entries : List (κ × α)) :
    entries.lookup key = entries.lookup other := by
  induction entries with
  | nil => rfl
  | cons entry rest ih => rw [List.lookup_cons, List.lookup_cons, BEq.congr_left h, ih]

/-- What a key stands for is **the value of an entry**. -/
theorem exists_of_lookup (h : entries.lookup key = some value) : ∃ k, (k, value) ∈ entries ∧ (key == k) = true := by
  induction entries with
  | nil => exact absurd h (by simp)
  | cons entry rest ih =>
      rw [List.lookup_cons] at h
      split at h
      · next heq =>
        obtain rfl := Option.some.inj h
        exact ⟨entry.1, List.mem_cons_self, heq⟩
      · obtain ⟨k, hmem, heq⟩ := ih h
        exact ⟨k, List.mem_cons_of_mem _ hmem, heq⟩

/-- Among distinct entries each key **stands for its value**. -/
theorem lookup_of_distinct [EquivBEq κ] (h : Distinct entries) (hmem : (key, value) ∈ entries) :
    entries.lookup key = some value := by
  induction h with
  | nil => exact absurd hmem List.not_mem_nil
  | @cons entry rest hne _ ih =>
      rw [List.lookup_cons]
      rcases List.mem_cons.mp hmem with rfl | hmem
      · rw [beq_self_eq_true]
      · rw [BEq.comm, hne _ hmem]
        exact ih hmem

/-- An entry that is there already **changes nothing** when it is put. -/
theorem put_of_lookup [EquivBEq κ] (h : entries.lookup key = some value) : put key value entries = entries := by
  induction entries with
  | nil => exact absurd h (by simp)
  | cons entry rest ih =>
      rw [List.lookup_cons, BEq.comm] at h
      rw [put]
      split
      · next heq =>
        rw [heq] at h
        obtain rfl := Option.some.inj h
        rfl
      · next hne =>
        rw [Bool.eq_false_iff.mpr hne] at h
        rw [ih h]

/-- A key that is not there comes **last** when it is put. -/
theorem put_of_lookup_none [EquivBEq κ] (h : entries.lookup key = none) (value : α) :
    put key value entries = entries ++ [(key, value)] := by
  induction entries with
  | nil => rfl
  | cons entry rest ih =>
      rw [List.lookup_cons, BEq.comm] at h
      rw [put]
      split
      · next heq =>
        rw [heq] at h
        exact absurd h (by simp)
      · next hne =>
        rw [Bool.eq_false_iff.mpr hne] at h
        rw [ih h, List.cons_append]

/-- What stands among entries after one was put **stood there, or is its value**. -/
theorem mem_put {entry : κ × α} (h : entry ∈ put key value entries) :
    (entry.2 = value ∧ (entry.1 = key ∨ ∃ old, (entry.1, old) ∈ entries)) ∨ entry ∈ entries := by
  induction entries with
  | nil =>
      obtain rfl := List.mem_singleton.mp h
      exact .inl ⟨rfl, .inl rfl⟩
  | cons first rest ih =>
      rw [put] at h
      split at h
      · rcases List.mem_cons.mp h with rfl | h
        · exact .inl ⟨rfl, .inr ⟨first.2, List.mem_cons_self⟩⟩
        · exact .inr (List.mem_cons_of_mem _ h)
      · rcases List.mem_cons.mp h with rfl | h
        · exact .inr List.mem_cons_self
        · refine (ih h).imp (fun hnew => ⟨hnew.1, hnew.2.imp_right ?_⟩) (List.mem_cons_of_mem _)
          rintro ⟨old, hold⟩
          exact ⟨old, List.mem_cons_of_mem _ hold⟩

/-- Putting an entry keeps entries **distinct**. -/
theorem distinct_put (h : Distinct entries) (key : κ) (value : α) : Distinct (put key value entries) := by
  induction h with
  | nil => exact List.pairwise_singleton _ _
  | @cons entry rest hne hrest ih =>
      rw [put]
      split
      · exact .cons hne hrest
      · next hkey =>
        refine .cons (fun other hother => ?_) ih
        rcases mem_put hother with ⟨-, heq | ⟨old, hold⟩⟩ | hother
        · rw [heq]
          exact Bool.eq_false_iff.mpr hkey
        · have hdiffer := hne _ hold
          exact hdiffer
        · exact hne _ hother

/-- The entries that pairs leave are **distinct**, and each has a value of one of the pairs. -/
theorem distinct_ofPairs (pairs : List (κ × α)) :
    Distinct (ofPairs pairs) ∧ ∀ entry ∈ ofPairs pairs, ∃ pair ∈ pairs, entry.2 = pair.2 := by
  have hfold : ∀ entries : List (κ × α), Distinct entries →
      Distinct (pairs.foldl (fun entries pair => put pair.1 pair.2 entries) entries) ∧
      ∀ entry ∈ pairs.foldl (fun entries pair => put pair.1 pair.2 entries) entries,
        entry ∈ entries ∨ ∃ pair ∈ pairs, entry.2 = pair.2 := by
    induction pairs with
    | nil => exact fun entries h => ⟨h, fun entry hmem => .inl hmem⟩
    | cons pair pairs ih =>
        intro entries h
        obtain ⟨hdistinct, hvalues⟩ := ih _ (distinct_put h pair.1 pair.2)
        refine ⟨hdistinct, fun entry hmem => ?_⟩
        rcases hvalues entry hmem with hmem | ⟨other, hother, heq⟩
        · exact (mem_put hmem).symm.imp_right fun hnew => ⟨pair, List.mem_cons_self, hnew.1⟩
        · exact .inr ⟨other, List.mem_cons_of_mem _ hother, heq⟩
  obtain ⟨hdistinct, hvalues⟩ := hfold [] List.Pairwise.nil
  exact ⟨hdistinct, fun entry hmem => (hvalues entry hmem).resolve_left List.not_mem_nil⟩

end Entries

/-! ### Trees -/

/-- The **entries** of a mapping; other data have none. -/
def Datum.entries : Datum → DataEntries
  | mapping entries => entries
  | _ => []

/-- Data are **unambiguous** if no key stands twice in a mapping, however deep. -/
inductive Datum.Unambiguous : Datum → Prop
  | scalar (value : Scalar) : Unambiguous (.scalar value)
  | list {items : List Datum} : (∀ item ∈ items, Unambiguous item) → Unambiguous (.list items)
  | mapping {entries : DataEntries} : Entries.Distinct entries → (∀ entry ∈ entries, Unambiguous entry.2) →
      Unambiguous (.mapping entries)

namespace Node

mutual

/-- **The data of a node** are unambiguous. -/
theorem unambiguous_of_toDatum {node : Node} {value : Datum} (h : node.toDatum = .ok value) :
    value.Unambiguous := by
  cases node with
  | text tag isPlain t =>
      rw [toDatum] at h
      split at h
      · next kind _ =>
        cases hread : kind.read t with
        | error fault => rw [hread] at h; exact absurd h (by simp [Except.map])
        | ok scalar =>
            rw [hread] at h
            obtain rfl := Except.ok.inj h
            exact .scalar scalar
      · exact absurd h (by simp)
  | list tag items =>
      rw [toDatum] at h
      split at h
      · cases hitems : toData items with
        | error fault => rw [hitems] at h; exact absurd h (by simp [Except.map])
        | ok values =>
            rw [hitems] at h
            obtain rfl := Except.ok.inj h
            exact .list (unambiguous_of_toData hitems)
      · exact absurd h (by simp)
  | mapping tag entries =>
      rw [toDatum] at h
      split at h
      · cases hentries : toEntries entries with
        | error fault => rw [hentries] at h; exact absurd h (by simp [Except.map])
        | ok pairs =>
            rw [hentries] at h
            obtain rfl := Except.ok.inj h
            obtain ⟨hdistinct, hvalues⟩ := Entries.distinct_ofPairs pairs
            refine .mapping hdistinct fun entry hmem => ?_
            obtain ⟨pair, hpair, heq⟩ := hvalues entry hmem
            rw [toEntries] at hentries
            obtain ⟨merged, hmerged, hentries⟩ := exists_of_bind_eq_ok hentries
            obtain ⟨own, hown, hentries⟩ := exists_of_bind_eq_ok hentries
            obtain rfl := Except.ok.inj hentries
            rw [heq]
            rcases List.mem_append.mp hpair with hpair | hpair
            · exact unambiguous_of_mergedEntries hmerged pair hpair
            · exact unambiguous_of_ownEntries hown pair hpair
      · exact absurd h (by simp)

/-- The data of **each of several nodes** are unambiguous. -/
theorem unambiguous_of_toData {nodes : List Node} {values : List Datum} (h : toData nodes = .ok values) :
    ∀ value ∈ values, value.Unambiguous := by
  cases nodes with
  | nil =>
      rw [toData] at h
      obtain rfl := Except.ok.inj h
      exact fun value hmem => absurd hmem List.not_mem_nil
  | cons node rest =>
      rw [toData] at h
      obtain ⟨first, hfirst, h⟩ := exists_of_bind_eq_ok h
      obtain ⟨others, hothers, h⟩ := exists_of_bind_eq_ok h
      obtain rfl := Except.ok.inj h
      exact List.forall_mem_cons.mpr ⟨unambiguous_of_toDatum hfirst, unambiguous_of_toData hothers⟩

/-- The **own entries** of a mapping have unambiguous values. -/
theorem unambiguous_of_ownEntries {entries : List (Node × Node)} {own : DataEntries}
    (h : ownEntries entries = .ok own) : ∀ entry ∈ own, entry.2.Unambiguous := by
  cases entries with
  | nil =>
      rw [ownEntries] at h
      obtain rfl := Except.ok.inj h
      exact fun entry hmem => absurd hmem List.not_mem_nil
  | cons entry rest =>
      obtain ⟨key, value⟩ := entry
      rw [ownEntries] at h
      split at h
      · exact unambiguous_of_ownEntries h
      · obtain ⟨scalar, -, h⟩ := exists_of_bind_eq_ok h
        obtain ⟨first, hfirst, h⟩ := exists_of_bind_eq_ok h
        obtain ⟨others, hothers, h⟩ := exists_of_bind_eq_ok h
        obtain rfl := Except.ok.inj h
        exact List.forall_mem_cons.mpr ⟨unambiguous_of_toDatum hfirst, unambiguous_of_ownEntries hothers⟩

/-- The entries that a mapping **merges** into its own have unambiguous values. -/
theorem unambiguous_of_mergedEntries {entries : List (Node × Node)} {merged : DataEntries}
    (h : mergedEntries entries = .ok merged) : ∀ entry ∈ merged, entry.2.Unambiguous := by
  cases entries with
  | nil =>
      rw [mergedEntries] at h
      obtain rfl := Except.ok.inj h
      exact fun entry hmem => absurd hmem List.not_mem_nil
  | cons entry rest =>
      obtain ⟨key, value⟩ := entry
      rw [mergedEntries] at h
      split at h
      · obtain ⟨added, hadded, h⟩ := exists_of_bind_eq_ok h
        obtain ⟨others, hothers, h⟩ := exists_of_bind_eq_ok h
        obtain rfl := Except.ok.inj h
        exact List.forall_mem_append.mpr
          ⟨unambiguous_of_sourceEntries hadded, unambiguous_of_mergedEntries hothers⟩
      · exact unambiguous_of_mergedEntries h

/-- The entries of **what is merged** have unambiguous values. -/
theorem unambiguous_of_sourceEntries {node : Node} {added : DataEntries} (h : node.sourceEntries = .ok added) :
    ∀ entry ∈ added, entry.2.Unambiguous := by
  cases node with
  | text tag isPlain t => exact absurd h (by simp [sourceEntries])
  | list tag items =>
      rw [sourceEntries] at h
      exact unambiguous_of_sourceItems h
  | mapping tag entries =>
      rw [sourceEntries] at h
      obtain ⟨merged, hmerged, h⟩ := exists_of_bind_eq_ok h
      obtain ⟨own, hown, h⟩ := exists_of_bind_eq_ok h
      obtain rfl := Except.ok.inj h
      exact List.forall_mem_append.mpr ⟨unambiguous_of_mergedEntries hmerged, unambiguous_of_ownEntries hown⟩

/-- The entries of **several mappings** that are merged have unambiguous values. -/
theorem unambiguous_of_sourceItems {nodes : List Node} {added : DataEntries} (h : sourceItems nodes = .ok added) :
    ∀ entry ∈ added, entry.2.Unambiguous := by
  cases nodes with
  | nil =>
      rw [sourceItems] at h
      obtain rfl := Except.ok.inj h
      exact fun entry hmem => absurd hmem List.not_mem_nil
  | cons node rest =>
      cases node with
      | text tag isPlain t => exact absurd h (by simp [sourceItems])
      | list tag items => exact absurd h (by simp [sourceItems])
      | mapping tag entries =>
          rw [sourceItems] at h
          obtain ⟨merged, hmerged, h⟩ := exists_of_bind_eq_ok h
          obtain ⟨own, hown, h⟩ := exists_of_bind_eq_ok h
          obtain ⟨others, hothers, h⟩ := exists_of_bind_eq_ok h
          obtain rfl := Except.ok.inj h
          refine List.forall_mem_append.mpr ⟨List.forall_mem_append.mpr ⟨unambiguous_of_sourceItems hothers, ?_⟩, ?_⟩
          · exact unambiguous_of_mergedEntries hmerged
          · exact unambiguous_of_ownEntries hown

end

end Node

/-- **What is read from a text** is unambiguous. -/
theorem Datum.unambiguous_of_ofText {t : Text} {value : Datum} (h : ofText t = .ok value) : value.Unambiguous := by
  rw [ofText] at h
  split at h
  · exact absurd h (by simp)
  · obtain ⟨tokens, -, h⟩ := exists_of_bind_eq_ok h
    obtain ⟨found, -, h⟩ := exists_of_bind_eq_ok h
    split at h
    · exact Node.unambiguous_of_toDatum h
    · obtain rfl := Except.ok.inj h
      exact .scalar .null

end PlainSpec
