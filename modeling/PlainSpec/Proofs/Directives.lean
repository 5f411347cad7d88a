import Mathlib.Data.Option.Basic
import PlainSpec.Proofs.DecimalDigits
import PlainSpec.Proofs.WrittenLines

/-!
# Directives and white space

A directive is looked for in the whole text, and not line by line: white space stands between its parts, and a
line may end there. What counts is that there is white space, and not how much of it or which. This module says
when two texts are **spaced alike**, in that they have the same characters and gaps between the same ones. Each
of the readers that a directive is made of takes texts that are spaced alike to texts that are spaced alike, and
so both texts name the same language.

## Main results

* `Text.SpacedAlike.directive?_eq`: texts that are spaced alike have the same first directive.
* `directive?_append_blank`: white space in front changes no directive.
* `languageCode_word`: the code of a language is a word.
-/

namespace PlainSpec

namespace Text

/-! ### Texts that are spaced alike -/

/-- A text of **white space** only. -/
def Blank (t : Text) : Prop := ∀ c ∈ t, isBlank c = true

/-- Two texts are **spaced alike** if they have the same characters apart from white space, and have some white
space between the same ones. Only the white space at the end may be missing in one of them. -/
inductive SpacedAlike : Text → Text → Prop
  | ends {s s' : Text} : Blank s → Blank s' → SpacedAlike s s'
  | ink {c : Char} {t t' : Text} : isBlank c = false → SpacedAlike t t' → SpacedAlike (c :: t) (c :: t')
  | gap {s s' t t' : Text} : s ≠ [] → s' ≠ [] → Blank s → Blank s' → SpacedAlike t t' →
      SpacedAlike (s ++ t) (s' ++ t')

/-- White space in front is **dropped altogether**. -/
theorem trimLeft_append_of_blank {s : Text} (hs : Blank s) (t : Text) : trimLeft (s ++ t) = trimLeft t := by
  induction s with
  | nil => rfl
  | cons c s ih =>
      obtain ⟨hc, hs⟩ := List.forall_mem_cons.mp hs
      rw [List.cons_append, trimLeft_blank hc, ih hs]

/-- Of white space trimming leaves **nothing**. -/
theorem trimLeft_of_blank {s : Text} (hs : Blank s) : trimLeft s = [] := by
  rw [← List.append_nil s, trimLeft_append_of_blank hs, trimLeft, List.dropWhile_nil]

/-- White space has only **white space** at its head. -/
theorem Blank.head? {s : Text} (hs : Blank s) : ∀ c ∈ s.head?, isBlank c = true :=
  fun c hc => hs c (List.mem_of_mem_head? hc)

/-- So has a text **with some of it in front**. -/
theorem Blank.head?_append {s : Text} (hs : Blank s) (hne : s ≠ []) (t : Text) :
    ∀ c ∈ (s ++ t).head?, isBlank c = true := by
  obtain ⟨c, s, rfl⟩ := List.exists_cons_of_ne_nil hne
  exact hs.head?

namespace SpacedAlike

variable {t t' : Text}

/-- Texts that are spaced alike may have **the same character in front**. -/
theorem cons (c : Char) (h : SpacedAlike t t') : SpacedAlike (c :: t) (c :: t') := by
  cases hc : isBlank c with
  | false => exact .ink hc h
  | true =>
      have hblank : Blank [c] := by simpa [Blank] using hc
      have hgap : SpacedAlike ([c] ++ t) ([c] ++ t') :=
        .gap (List.cons_ne_nil c []) (List.cons_ne_nil c []) hblank hblank h
      exact hgap

/-- A text is spaced **like itself**. -/
theorem refl (t : Text) : SpacedAlike t t := by
  induction t with
  | nil => exact .ends (by simp [Blank]) (by simp [Blank])
  | cons c t ih => exact ih.cons c

/-- Texts that are spaced alike may have **the same text in front**. -/
theorem append_left (u : Text) (h : SpacedAlike t t') : SpacedAlike (u ++ t) (u ++ t') := by
  induction u with
  | nil => exact h
  | cons c u ih => exact ih.cons c

/-- Texts that are spaced alike **begin alike**: both with a gap or at their end, or both with the same
character. -/
theorem head (h : SpacedAlike t t') :
    ((∀ c ∈ t.head?, isBlank c = true) ∧ ∀ c ∈ t'.head?, isBlank c = true) ∨
      ∃ c u u', isBlank c = false ∧ t = c :: u ∧ t' = c :: u' ∧ SpacedAlike u u' := by
  cases h with
  | ends hs hs' => exact .inl ⟨hs.head?, hs'.head?⟩
  | @ink c u u' hc hu => exact .inr ⟨c, u, u', hc, rfl, rfl, hu⟩
  | gap hne hne' hs hs' =>
      exact .inl ⟨hs.head?_append hne _, hs'.head?_append hne' _⟩

/-- Without the white space in front texts are **still spaced alike**. -/
theorem trimLeft (h : SpacedAlike t t') : SpacedAlike (Text.trimLeft t) (Text.trimLeft t') := by
  induction h with
  | ends hs hs' =>
      rw [trimLeft_of_blank hs, trimLeft_of_blank hs']
      exact .refl []
  | ink hc hu =>
      rw [trimLeft_ink hc, trimLeft_ink hc]
      exact .ink hc hu
  | gap _ _ hs hs' _ ih => rwa [trimLeft_append_of_blank hs, trimLeft_append_of_blank hs']

/-- The first word of texts that are spaced alike is **the same**. -/
theorem takeWhile_ink (h : SpacedAlike t t') :
    t.takeWhile (fun c => !isBlank c) = t'.takeWhile fun c => !isBlank c := by
  have hgap : ∀ s : Text, (∀ c ∈ s.head?, isBlank c = true) → s.takeWhile (fun c => !isBlank c) = [] := by
    intro s hs
    cases s with
    | nil => rfl
    | cons c s => exact List.takeWhile_cons_of_neg (by simp [hs c rfl])
  induction h with
  | ends hs hs' => rw [hgap _ hs.head?, hgap _ hs'.head?]
  | ink hc _ ih =>
      rw [List.takeWhile_cons_of_pos (by simp [hc]), List.takeWhile_cons_of_pos (by simp [hc]), ih]
  | gap hne hne' hs hs' =>
      rw [hgap _ (hs.head?_append hne _), hgap _ (hs'.head?_append hne' _)]

/-- What follows **a word that no white space is part of** is spaced alike. -/
theorem afterPrefixFold? {w : Text} (hw : ∀ a ∈ w, ∀ c, isBlank c = true → sameLetter a c = false)
    (h : SpacedAlike t t') :
    Option.Rel SpacedAlike (Text.afterPrefixFold? w t) (Text.afterPrefixFold? w t') := by
  induction w generalizing t t' with
  | nil => exact .some h
  | cons a w ih =>
      obtain ⟨ha, hw⟩ := List.forall_mem_cons.mp hw
      have hnone : ∀ s : Text, (∀ c ∈ s.head?, isBlank c = true) →
          Text.afterPrefixFold? (a :: w) s = none := by
        intro s hs
        cases s with
        | nil => rfl
        | cons c s => rw [Text.afterPrefixFold?, if_neg (by simp [ha c (hs c rfl)])]
      rcases h.head with ⟨hgap, hgap'⟩ | ⟨c, u, u', -, rfl, rfl, hu⟩
      · rw [hnone t hgap, hnone t' hgap']
        exact .none
      · rw [Text.afterPrefixFold?, Text.afterPrefixFold?]
        split
        · exact ih hw hu
        · exact .none

/-- What follows **a colon** is spaced alike. -/
theorem afterColon? (h : SpacedAlike t t') :
    Option.Rel SpacedAlike (PlainSpec.afterColon? t) (PlainSpec.afterColon? t') := by
  have hnone : ∀ s : Text, (∀ c ∈ (Text.trimLeft s).head?, c ≠ ':') → PlainSpec.afterColon? s = none := by
    intro s hs
    unfold PlainSpec.afterColon?
    split
    · next rest hrest => exact absurd rfl (hs ':' (by rw [hrest]; rfl))
    · rfl
  have hblank : ∀ c, isBlank c = true → c ≠ ':' := by
    rintro _ hc rfl
    exact absurd hc (by decide)
  rcases h.trimLeft.head with ⟨hgap, hgap'⟩ | ⟨c, u, u', -, ht, ht', hu⟩
  · rw [hnone t fun c hc => hblank c (hgap c hc), hnone t' fun c hc => hblank c (hgap' c hc)]
    exact .none
  · by_cases hc : c = ':'
    · subst hc
      simp only [PlainSpec.afterColon?, ht, ht']
      exact .some hu.trimLeft
    · rw [hnone t (by simpa [ht] using hc), hnone t' (by simpa [ht'] using hc)]
      exact .none

end SpacedAlike

end Text

/-! ### Directives -/

/-- No letter of the word that a directive begins with is a **variant of white space**. -/
theorem sameLetter_directiveWord :
    ∀ a ∈ ("language" : Text), ∀ c, isBlank c = true → sameLetter a c = false := by
  intro a ha c hc
  have hall := forall_isBlank (p := fun c => ("language" : Text).all fun a => !sameLetter a c)
    (by decide +kernel) hc
  simpa using List.all_eq_true.mp hall a ha

/-- White space **begins no directive**. -/
theorem directiveCode?_of_blank {c : Char} (hc : isBlank c = true) (t : Text) :
    directiveCode? (c :: t) = none := by
  unfold directiveCode?
  split
  · next heq =>
    obtain ⟨rfl, -⟩ := List.cons.inj heq
    exact absurd hc (by decide)
  · rfl

/-- White space **in front** changes no directive. -/
theorem directive?_append_blank {s : Text} (hs : Text.Blank s) (t : Text) :
    directive? (s ++ t) = directive? t := by
  induction s with
  | nil => rfl
  | cons c s ih =>
      obtain ⟨hc, hs⟩ := List.forall_mem_cons.mp hs
      rw [List.cons_append, directive?, directiveCode?_of_blank hc, ih hs]

/-- Readers go on alike from **results that are alike**. -/
theorem bind_eq_of_rel {α β γ : Type} {r : α → β → Prop} {f : α → Option γ} {g : β → Option γ}
    {a : Option α} {b : Option β} (h : Option.Rel r a b) (hfg : ∀ x y, r x y → f x = g y) :
    a.bind f = b.bind g := by
  cases h with
  | some hr => exact hfg _ _ hr
  | none => rfl

/-- Texts that are spaced alike begin with the **same directive**. -/
theorem Text.SpacedAlike.directiveCode?_eq {c : Char} {t t' : Text} (h : SpacedAlike t t') :
    directiveCode? (c :: t) = directiveCode? (c :: t') := by
  by_cases hc : c = '#'
  · subst hc
    simp only [directiveCode?, Option.bind_eq_bind]
    refine bind_eq_of_rel (h.trimLeft.afterPrefixFold? sameLetter_directiveWord) fun _ _ hafter => ?_
    refine bind_eq_of_rel hafter.afterColon? fun _ _ hvalue => ?_
    rw [hvalue.takeWhile_ink]
  · have hnone : ∀ s, directiveCode? (c :: s) = none := by
      intro s
      unfold directiveCode?
      split
      · next heq => exact absurd (List.cons.inj heq).1 hc
      · rfl
    rw [hnone, hnone]

/-- Texts that are spaced alike have **the same first directive**. -/
theorem Text.SpacedAlike.directive?_eq {t t' : Text} (h : SpacedAlike t t') :
    directive? t = directive? t' := by
  have hblank : ∀ s : Text, Blank s → directive? s = none := by
    intro s hs
    rw [← List.append_nil s, directive?_append_blank hs, directive?]
  induction h with
  | ends hs hs' => rw [hblank _ hs, hblank _ hs']
  | ink _ hu ih => rw [directive?, directive?, hu.directiveCode?_eq, ih]
  | gap _ _ hs hs' _ ih => rw [directive?_append_blank hs, directive?_append_blank hs', ih]

/-- The code in a directive is **a word**. -/
theorem directive?_word {t code : Text} (h : directive? t = some code) :
    code ≠ [] ∧ ∀ c ∈ code, isBlank c = false := by
  induction t with
  | nil => exact absurd h (by simp [directive?])
  | cons c t ih =>
      rw [directive?] at h
      split at h
      · next found hfound =>
        obtain rfl := Option.some.inj h
        unfold directiveCode? at hfound
        split at hfound
        · obtain ⟨after, -, hfound⟩ := Option.bind_eq_some_iff.mp hfound
          obtain ⟨value, -, hfound⟩ := Option.bind_eq_some_iff.mp hfound
          split at hfound
          · exact absurd hfound (by simp)
          · next hne =>
            obtain rfl := Option.some.inj hfound
            exact ⟨hne, fun d hd => by simpa using List.all_eq_true.mp List.all_takeWhile d hd⟩
        · exact absurd hfound (by simp)
      · exact ih h

/-- The code of a language is **a word**, if the code of the default language is. -/
theorem languageCode_word {default : Text} (hne : default ≠ [])
    (hdefault : ∀ c ∈ default, isBlank c = false) (text : Text) :
    languageCode text default ≠ [] ∧ ∀ c ∈ languageCode text default, isBlank c = false := by
  unfold languageCode
  cases h : directive? text with
  | none => exact ⟨hne, hdefault⟩
  | some code => exact directive?_word h

end PlainSpec
