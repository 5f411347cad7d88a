import PlainSpec.Proofs.UnambiguousData
import PlainSpec.Settings.Basic

/-!
# Merged settings

Settings that are laid over others are merged with them mapping by mapping. What this comes to is told path by path: a
value of the upper settings that is no mapping counts, wherever it is; where they say nothing the lower settings count,
as far down as both have mappings; and what is a mapping above stays one. All of it follows from the entries of a
single mapping (`lookup_merge`), by induction on the path.

Settings that are there already change nothing when they are laid over (`merge_eq_self`). So it makes no difference how
often settings are laid over others.

## Main results

* `Settings.lookup_merge`: the entries of merged settings.
* `Settings.mergeValue_self`, `Settings.mergeValue_mergeValue`: what is laid over itself, and over what it was laid over
  before.
* `Settings.merge_pathwise`: what stands at a path in merged settings, and when merging changes nothing.
-/

namespace PlainSpec

/-! ### Paths of keys -/

namespace Datum

/-- Whether a value is a **mapping**. -/
def isMapping : Datum → Bool
  | mapping _ => true
  | _ => false

/-- The value that a **key** has in a mapping. -/
def value? (key : Scalar) : Datum → Option Datum
  | mapping entries => entries.lookup key
  | _ => none

/-- The value **under a path of keys**, each of which leads into a mapping. -/
def under? : List Scalar → Datum → Option Datum
  | [], value => some value
  | key :: keys, value => (value.value? key).bind (under? keys)

/-- Settings are asked for under a path whose keys are **the texts between dots**. -/
theorem get?_eq_under? (value : Datum) (keys : Text) :
    value.get? keys = value.under? ((Text.splitOn (· == '.') keys).map Scalar.text) := by
  rw [get?]
  generalize Text.splitOn (· == '.') keys = names
  induction names generalizing value with
  | nil => rfl
  | cons name names ih =>
      have hentry : value.entry? name = value.value? (.text name) := by cases value <;> rfl
      rw [at?, hentry, List.map_cons, under?]
      exact congrArg _ (funext ih)

end Datum

namespace Settings

variable {lower upper : Settings} {key : Scalar} {keys : List Scalar}

/-! ### Entries of merged settings -/

/-- A value that is laid over **nothing** is itself. -/
theorem mergeValue_none (value : Datum) : mergeValue none value = value := by cases value <;> rfl

/-- A value that is **no mapping** counts, whatever it is laid over. -/
theorem mergeValue_of_not_isMapping {value : Datum} (h : value.isMapping = false) (old : Option Datum) :
    mergeValue old value = value := by
  cases value with
  | scalar s => rfl
  | list items => rfl
  | mapping entries => exact absurd h (by simp [Datum.isMapping])

/-- A mapping that is laid over a mapping is **merged** with it. -/
theorem mergeValue_mapping (old entries : Settings) :
    mergeValue (some (.mapping old)) (.mapping entries) = .mapping (merge old entries) := rfl

/-- A mapping that is laid over anything else is **itself**. -/
theorem mergeValue_of_no_mapping {old : Option Datum} (h : ∀ entries, old ≠ some (.mapping entries))
    (entries : Settings) : mergeValue old (.mapping entries) = .mapping entries := by
  rw [mergeValue]
  exact h

/-- Settings are laid over others **one entry after the other**. -/
theorem merge_cons (lower : Settings) (key : Scalar) (value : Datum) (rest : Settings) :
    merge lower ((key, value) :: rest) = merge (Entries.put key (mergeValue (lower.lookup key) value) lower) rest := by
  rw [merge]

/-- **The entries of merged settings**: what the upper settings have for a key is laid over what the lower ones have,
and the other entries are those of the lower ones. -/
theorem lookup_merge (hupper : Entries.Distinct upper) (lower : Settings) (key : Scalar) :
    (merge lower upper).lookup key =
      ((upper.lookup key).map (mergeValue (lower.lookup key))).or (lower.lookup key) := by
  induction hupper generalizing lower with
  | nil => rw [merge_nil]; rfl
  | @cons entry rest hne _ ih =>
      obtain ⟨k, value⟩ := entry
      rw [merge_cons, ih, Entries.lookup_put, List.lookup_cons]
      cases hkey : key == k with
      | true =>
          -- the other keys are different, so this entry is the one that counts
          have hrest : rest.lookup key = none := by
            refine List.lookup_eq_none_iff.mpr fun other hother => ?_
            rw [bne, BEq.congr_left hkey, hne other hother]
            rfl
          have hlower : lower.lookup key = lower.lookup k := Entries.lookup_congr hkey lower
          rw [hrest, hlower]
          rfl
      | false => rfl

/-- Settings that **have already** what would come of laying others over them stay as they are. -/
theorem merge_eq_self (h : ∀ entry ∈ upper, ∃ old, lower.lookup entry.1 = some old ∧
    mergeValue (some old) entry.2 = old) : merge lower upper = lower := by
  induction upper with
  | nil => exact merge_nil lower
  | cons entry rest ih =>
      obtain ⟨⟨old, hold, hsame⟩, hrest⟩ := List.forall_mem_cons.mp h
      rw [merge_cons, hold, hsame, Entries.put_of_lookup hold, ih hrest]

/-- Settings that are laid over settings with **none of their keys** come behind them. -/
theorem merge_eq_append (hdistinct : Entries.Distinct upper) (h : ∀ entry ∈ upper, lower.lookup entry.1 = none) :
    merge lower upper = lower ++ upper := by
  induction hdistinct generalizing lower with
  | nil => rw [merge_nil, List.append_nil]
  | @cons entry rest hne _ ih =>
      obtain ⟨hentry, hrest⟩ := List.forall_mem_cons.mp h
      rw [merge_cons, hentry, mergeValue_none, Entries.put_of_lookup_none hentry, ih, List.append_assoc,
        List.singleton_append]
      intro other hother
      rw [List.lookup_append, hrest other hother, List.lookup_cons, BEq.comm, hne other hother]
      rfl

/-! ### Laying over again -/

/-- **What is laid over itself** stays as it is. -/
theorem mergeValue_self {value : Datum} (h : value.Unambiguous) : mergeValue (some value) value = value := by
  induction h with
  | scalar s => rfl
  | list _ => rfl
  | mapping hdistinct _ ih =>
      rw [mergeValue_mapping]
      refine congrArg Datum.mapping (merge_eq_self fun entry hentry => ?_)
      exact ⟨entry.2, Entries.lookup_of_distinct hdistinct hentry, ih entry hentry⟩

/-- **What is laid over a second time** changes nothing. -/
theorem mergeValue_mergeValue {value : Datum} (h : value.Unambiguous) (old : Option Datum) :
    mergeValue (some (mergeValue old value)) value = mergeValue old value := by
  induction h generalizing old with
  | scalar s => rfl
  | list _ => rfl
  | @mapping entries hdistinct hvalues ih =>
      by_cases hold : ∃ lower, old = some (.mapping lower)
      · obtain ⟨lower, rfl⟩ := hold
        rw [mergeValue_mapping, mergeValue_mapping]
        refine congrArg Datum.mapping (merge_eq_self fun entry hentry => ?_)
        refine ⟨mergeValue (lower.lookup entry.1) entry.2, ?_, ih entry hentry _⟩
        rw [lookup_merge hdistinct, Entries.lookup_of_distinct hdistinct hentry]
        rfl
      · rw [mergeValue_of_no_mapping fun entries heq => hold ⟨entries, heq⟩]
        exact mergeValue_self (.mapping hdistinct hvalues)

/-! ### Paths in merged settings -/

/-- **What a key has** where a mapping was laid over a value. -/
theorem value?_mergeValue (hupper : Entries.Distinct upper) (old : Option Datum) (key : Scalar) :
    (mergeValue old (.mapping upper)).value? key =
      ((upper.lookup key).map (mergeValue (old.bind (Datum.value? key)))).or (old.bind (Datum.value? key)) := by
  by_cases hold : ∃ lower, old = some (.mapping lower)
  · obtain ⟨lower, rfl⟩ := hold
    exact lookup_merge hupper lower key
  · have hnone : old.bind (Datum.value? key) = none := by
      rcases old with _ | (s | items | entries)
      · rfl
      · rfl
      · rfl
      · exact absurd ⟨entries, rfl⟩ hold
    rw [mergeValue_of_no_mapping fun entries heq => hold ⟨entries, heq⟩, hnone, Option.or_none, Datum.value?]
    cases upper.lookup key with
    | none => rfl
    | some value => rw [Option.map_some, mergeValue_none]

/-- **Where the upper value has something under a path**, this is laid over what the lower one has there. -/
theorem under?_mergeValue_of_some {value v : Datum} (hvalue : value.Unambiguous) (h : value.under? keys = some v)
    (old : Option Datum) :
    (mergeValue old value).under? keys = some (mergeValue (old.bind (Datum.under? keys)) v) := by
  induction keys generalizing value old with
  | nil =>
      obtain rfl := Option.some.inj h
      have hold : old.bind (Datum.under? []) = old := by cases old <;> rfl
      rw [hold, Datum.under?]
  | cons key keys ih =>
      obtain ⟨next, hnext, hrest⟩ := Option.bind_eq_some_iff.mp h
      cases hvalue with
      | scalar s => exact absurd hnext (by simp [Datum.value?])
      | list _ => exact absurd hnext (by simp [Datum.value?])
      | @mapping upper hdistinct hvalues =>
          obtain ⟨k, hmem, -⟩ := Entries.exists_of_lookup hnext
          have hlookup : upper.lookup key = some next := hnext
          rw [Datum.under?, value?_mergeValue hdistinct, hlookup, Option.map_some, Option.some_or, Option.bind_some,
            ih (hvalues _ hmem) hrest, Option.bind_assoc]
          rfl

/-- **Where the upper value has nothing under a path**, and only mappings on the way there, this is what the lower one
has. -/
theorem under?_mergeValue_of_none {value : Datum} (hvalue : value.Unambiguous) (h : value.under? keys = none)
    (hway : ∀ front v, front <+: keys → value.under? front = some v → v.isMapping = true) (old : Option Datum) :
    (mergeValue old value).under? keys = old.bind (Datum.under? keys) := by
  induction keys generalizing value old with
  | nil => exact absurd h (by simp [Datum.under?])
  | cons key keys ih =>
      have hmapping := hway [] value List.nil_prefix rfl
      cases hvalue with
      | scalar s => exact absurd hmapping (by simp [Datum.isMapping])
      | list _ => exact absurd hmapping (by simp [Datum.isMapping])
      | @mapping upper hdistinct hvalues =>
          rw [Datum.under?, value?_mergeValue hdistinct]
          cases hnext : upper.lookup key with
          | none =>
              rw [Option.map_none, Option.none_or, Option.bind_assoc]
              rfl
          | some next =>
              obtain ⟨k, hmem, -⟩ := Entries.exists_of_lookup hnext
              have hunder : ∀ rest, (Datum.mapping upper).under? (key :: rest) = next.under? rest := by
                intro rest
                rw [Datum.under?, Datum.value?, hnext, Option.bind_some]
              rw [Option.map_some, Option.some_or, Option.bind_some, ih (hvalues _ hmem), Option.bind_assoc]
              · rfl
              · rwa [← hunder]
              · intro front v hfront hv
                refine hway (key :: front) v ((List.prefix_cons_inj key).mpr hfront) ?_
                rwa [hunder]

/-- **Merging keeps what is not overridden**, and merging again changes nothing. Under a path of keys merged settings
have a value of the upper settings that is no mapping; what the lower settings have there, or nothing if these have
nothing, where the upper ones have nothing, and nothing but mappings on the way there; and a mapping where the upper
settings have one. Laying nothing over settings changes nothing, and neither does laying settings over nothing, over
themselves, or over what they were laid over before. -/
theorem merge_pathwise (lower : Settings) {upper : Settings} (hupper : (Datum.mapping upper).Unambiguous) :
    (∀ keys,
      (∀ v, (Datum.mapping upper).under? keys = some v → v.isMapping = false →
        (Datum.mapping (merge lower upper)).under? keys = some v) ∧
      ((Datum.mapping upper).under? keys = none →
        (∀ front v, front <+: keys → front ≠ keys → (Datum.mapping upper).under? front = some v →
          v.isMapping = true) →
        (Datum.mapping (merge lower upper)).under? keys = (Datum.mapping lower).under? keys) ∧
      ∀ entries, (Datum.mapping upper).under? keys = some (.mapping entries) →
        ∃ merged, (Datum.mapping (merge lower upper)).under? keys = some (.mapping merged)) ∧
    merge lower [] = lower ∧ merge [] upper = upper ∧ merge upper upper = upper ∧
      merge (merge lower upper) upper = merge lower upper := by
  have hmerge : ∀ lower : Settings, Datum.mapping (merge lower upper) =
      mergeValue (some (.mapping lower)) (.mapping upper) := fun lower => rfl
  have hdistinct : Entries.Distinct upper := by
    cases hupper with
    | mapping hdistinct _ => exact hdistinct
  refine ⟨fun keys => ⟨fun v hv hvalue => ?_, fun hnone hway => ?_, fun entries hentries => ?_⟩, merge_nil lower,
    ?_, ?_, ?_⟩
  · rw [hmerge, under?_mergeValue_of_some hupper hv, mergeValue_of_not_isMapping hvalue]
  · rw [hmerge, under?_mergeValue_of_none hupper hnone fun front v hfront hv => ?_]
    · rfl
    · refine hway front v hfront (fun heq => ?_) hv
      rw [heq, hnone] at hv
      exact absurd hv (by simp)
  · rw [hmerge, under?_mergeValue_of_some hupper hentries]
    cases ((some (Datum.mapping lower)).bind (Datum.under? keys)) with
    | none => exact ⟨_, rfl⟩
    | some old => cases old <;> exact ⟨_, rfl⟩
  · exact merge_eq_append hdistinct fun _ _ => rfl
  · exact Datum.mapping.inj (mergeValue_self hupper)
  · exact Datum.mapping.inj (mergeValue_mergeValue hupper (some (.mapping lower)))

/-- Settings with a folder for what is generated, and a list of step files; **nothing is said** of reports. -/
def projectSettings : Settings :=
  [(.text "steps", .list [.text "steps"]), (.text "generate", .record [("output_dir", .text "generated")])]

/-- The settings count where they **say something**, a list as a whole; elsewhere the default settings do. -/
theorem merge_pathwise_project :
    (Datum.mapping projectSettings).Unambiguous ∧
      (Datum.mapping (merge defaults projectSettings)).under? [.text "generate", .text "output_dir"] =
        some (.text "generated") ∧
      (Datum.mapping (merge defaults projectSettings)).under? [.text "steps"] = some (.list [.text "steps"]) ∧
      (Datum.mapping (merge defaults projectSettings)).under? [.text "generate", .text "report_undefined"] =
        some (.bool true) ∧
      merge (merge defaults projectSettings) projectSettings = merge defaults projectSettings := by
  have hunambiguous : (Datum.mapping projectSettings).Unambiguous := by
    refine .mapping (by decide) (List.forall_mem_cons.mpr ⟨.list ?_, List.forall_mem_cons.mpr ⟨?_, by simp⟩⟩)
    · exact List.forall_mem_singleton.mpr (.scalar _)
    · exact .mapping (by decide) (List.forall_mem_singleton.mpr (.scalar _))
  obtain ⟨hpaths, -, -, -, hagain⟩ := merge_pathwise defaults hunambiguous
  refine ⟨hunambiguous, (hpaths _).1 _ rfl rfl, (hpaths _).1 _ rfl rfl, ?_, hagain⟩
  refine ((hpaths _).2.1 rfl fun front v hfront hne hv => ?_).trans rfl
  -- the way to the path is the empty one and the one to the mapping for what is generated
  rcases List.prefix_cons_iff.mp hfront with rfl | ⟨rest, rfl, hrest⟩
  · obtain rfl := Option.some.inj hv
    rfl
  · rcases List.prefix_cons_iff.mp hrest with rfl | ⟨_, rfl, hnil⟩
    · obtain rfl := Option.some.inj hv
      rfl
    · exact absurd (congrArg _ (congrArg _ (List.prefix_nil.mp hnil))) hne

end Settings

end PlainSpec
