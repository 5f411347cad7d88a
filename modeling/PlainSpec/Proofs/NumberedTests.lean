import PlainSpec.Proofs.TestMethods

/-!
# Numbered tests

The tests of a module are named after their scenarios. Where the name is that of an earlier test, a number is put
behind it, and numbers are counted up from two until the name is free. A numbered name may be what some other
scenario is called, so counting has to look at all earlier tests. It ends all the same: the name and its numbered
forms are different texts, so that not all of them can be names of earlier tests.

## Main results

* `Text.countsTo_iff`: counting ends at the smallest number whose name is free, and nowhere else.
* `Text.exists_countsTo_freeName`: the free name is the one at which counting ends.
* `tests_numbered`: how the tests for scenarios are named.
-/

namespace PlainSpec

namespace Text

/-! ### Counting -/

/-- **Counting on** from a number, while the name with the number is taken, ends at a number. -/
inductive CountsTo (taken : List Text) (name : Nat → Text) : Nat → Nat → Prop
  | free {n : Nat} : name n ∉ taken → CountsTo taken name n n
  | next {n last : Nat} : name n ∈ taken → CountsTo taken name (n + 1) last → CountsTo taken name n last

/-- **Counting ends at the smallest number** whose name is free. -/
theorem countsTo_iff {taken : List Text} {name : Nat → Text} {n last : Nat} : CountsTo taken name n last ↔
    n ≤ last ∧ name last ∉ taken ∧ ∀ k, n ≤ k → k < last → name k ∈ taken := by
  constructor
  · intro h
    induction h with
    | free hfree => exact ⟨Nat.le_refl _, hfree, fun k hle hlt => absurd hlt (Nat.not_lt_of_le hle)⟩
    | next htaken _ ih =>
        obtain ⟨hle, hfree, hpassed⟩ := ih
        refine ⟨Nat.le_of_succ_le hle, hfree, fun k hnk hlt => ?_⟩
        rcases Nat.eq_or_lt_of_le hnk with rfl | hnk
        · exact htaken
        · exact hpassed k hnk hlt
  · rintro ⟨hle, hfree, hpassed⟩
    induction hle using Nat.decreasingInduction with
    | self => exact .free hfree
    | of_succ n hlt ih =>
        exact .next (hpassed n (Nat.le_refl n) hlt) (ih fun k hnk => hpassed k (Nat.le_of_succ_le hnk))

/-- A name **with a number**: with one it is the name itself, and from two on the number stands behind it. -/
def numberedName (base separator : Text) (n : Nat) : Text :=
  if n ≤ 1 then base else base ++ separator ++ ofNat n

theorem numberedName_of_two_le (base separator : Text) {n : Nat} (h : 2 ≤ n) :
    numberedName base separator n = base ++ separator ++ ofNat n :=
  if_neg (Nat.not_le_of_lt h)

/-- **The free name is the one at which counting ends**, and the number is no larger than that of the names taken,
and one. -/
theorem exists_countsTo_freeName (taken : List Text) (base separator : Text) :
    ∃ n ≤ taken.length + 1, CountsTo taken (numberedName base separator) 1 n ∧
      freeName taken base separator = numberedName base separator n := by
  have hfree := freeName_notMem taken base separator
  unfold freeName at hfree ⊢
  split at hfree
  · next htaken =>
    rw [if_pos htaken]
    have hbase := List.contains_iff_mem.mp htaken
    obtain ⟨n, hn, hname, hpassed⟩ :=
      exists_firstFree_eq taken (fun n => base ++ separator ++ ofNat n) taken.length 2
    have hbound : n - 2 < taken.length :=
      lt_length_of_numbered_mem hbase fun i hi => hpassed (2 + i) (Nat.le_add_right 2 i) (by omega)
    rw [hname] at hfree ⊢
    rw [← numberedName_of_two_le base separator hn] at hfree ⊢
    refine ⟨n, by omega, countsTo_iff.mpr ⟨Nat.le_of_succ_le hn, hfree, fun k hk hlt => ?_⟩, rfl⟩
    rcases Nat.eq_or_lt_of_le hk with rfl | hk
    · exact hbase
    · rw [numberedName_of_two_le base separator hk]
      exact hpassed k hk hlt
  · next htaken =>
    rw [if_neg htaken]
    exact ⟨1, Nat.le_add_left 1 _, .free hfree, rfl⟩

end Text

/-- **How the tests for scenarios are named.** There is one test for each scenario, in order, and no two have one
name. Counting up the number of a name ends, at a number that is at most one more than there are tests in front. So a
test has the plain name of its scenario, which is an identifier in lower case behind `test_`, if no earlier test has this
name; and otherwise it has the smallest number from two on behind it that makes the name free. -/
theorem tests_numbered (scenarios : List Text) :
    (tests scenarios).map Prod.snd = scenarios ∧ ((tests scenarios).map Prod.fst).Nodup ∧
      ∀ before method scenario later, tests scenarios = before ++ (method, scenario) :: later →
        let earlier := before.map Prod.fst
        let plain := "test_" ++ Text.lower (identifierOf scenario)
        (∃ n ≤ before.length + 1, Text.CountsTo earlier (Text.numberedName plain "_") 1 n ∧
          method = Text.numberedName plain "_" n) ∧
        ((plain ∉ earlier ∧ method = plain) ∨
          (plain ∈ earlier ∧ ∃ n, 2 ≤ n ∧ method = plain ++ "_" ++ Text.ofNat n ∧ method ∉ earlier ∧
            ∀ k, 2 ≤ k → k < n → plain ++ "_" ++ Text.ofNat k ∈ earlier)) := by
  refine ⟨map_snd_testsFor [] scenarios, (testsFor_nodup [] scenarios).1, ?_⟩
  intro before method scenario later h earlier plain
  obtain ⟨n, hbound, hcounts, hname⟩ := Text.exists_countsTo_freeName earlier.reverse plain "_"
  have hmethod : method = Text.numberedName plain "_" n := by
    rw [← hname, ← List.append_nil earlier.reverse]
    exact fst_eq_freeName_of_testsFor h
  rw [Text.countsTo_iff] at hcounts
  simp only [List.mem_reverse] at hcounts
  obtain ⟨hn, hfree, hpassed⟩ := hcounts
  rw [List.length_reverse, List.length_map] at hbound
  refine ⟨⟨n, hbound, Text.countsTo_iff.mpr ⟨hn, hfree, hpassed⟩, hmethod⟩, ?_⟩
  rw [← hmethod] at hfree
  rcases Nat.eq_or_lt_of_le hn with rfl | hn
  · have hplain : method = plain := hmethod
    exact .inl ⟨hplain ▸ hfree, hplain⟩
  · rw [Text.numberedName_of_two_le plain "_" hn] at hmethod
    refine .inr ⟨hpassed 1 (Nat.le_refl 1) hn, n, hn, hmethod, hfree, fun k hk hlt => ?_⟩
    rw [← Text.numberedName_of_two_le plain "_" hk]
    exact hpassed k (Nat.le_of_succ_le hk) hlt

/-- The third scenario is called **as the second test is** named. -/
example : (tests ["a", "a", "a 2", "a"]).map Prod.fst = ["test_a", "test_a_2", "test_a_2_2", "test_a_3"] := by
  decide +kernel

end PlainSpec
