import PlainSpec.Text.Blank

/-!
# White space

What cutting a text at white space or at line breaks leaves, and what trimming leaves alone.

## Main results

* `Text.mem_words`: words are not empty and hold no white space.
* `Text.trim_eq_self_iff`: a text is trimmed if and only if white space stands at neither end.
* `Text.lines_join`: lines joined by line feeds are cut into the same lines again.
-/

namespace PlainSpec

namespace Text

/-! ### Words -/

/-- A word is **not empty and holds no white space**. -/
theorem mem_words {t w : Text} (h : w ∈ words t) : w ≠ [] ∧ ∀ c ∈ w, isBlank c = false := by
  induction t generalizing w with
  | nil => exact absurd h List.not_mem_nil
  | cons c rest ih =>
      unfold words at h
      split at h
      · exact ih h
      · next hc =>
        have hsingle : [c] ≠ [] ∧ ∀ d ∈ [c], isBlank d = false := by simpa using hc
        split at h
        · obtain rfl := List.mem_singleton.mp h
          exact hsingle
        · next d rest =>
          split at h
          · rcases List.mem_cons.mp h with rfl | h
            · exact hsingle
            · exact ih h
          · unfold consHead at h
            split at h
            · obtain rfl := List.mem_singleton.mp h
              exact hsingle
            · next part parts hwords =>
              have hpart := ih (hwords ▸ List.mem_cons_self)
              rcases List.mem_cons.mp h with rfl | h
              · refine ⟨List.cons_ne_nil _ _, List.forall_mem_cons.mpr ⟨?_, hpart.2⟩⟩
                simpa using hc
              · exact ih (hwords ▸ List.mem_cons_of_mem _ h)

/-- The words of a text **one after the other** are the text without white space. -/
theorem flatten_words (t : Text) : (words t).flatten = t.filter fun c => !isBlank c := by
  induction t with
  | nil => rfl
  | cons c rest ih =>
      have hstep : (words (c :: rest)).flatten =
          if isBlank c then (words rest).flatten else c :: (words rest).flatten := by
        conv => lhs; unfold words
        split
        · rfl
        · split
          · rfl
          · split
            · rfl
            · unfold consHead
              split
              · next hwords => rw [hwords]; rfl
              · next hwords => rw [hwords]; rfl
      rw [hstep, ih, List.filter_cons]
      cases isBlank c <;> rfl

/-! ### Trimming -/

/-- White space **in front** is dropped. -/
theorem trimLeft_blank {c : Char} (hc : isBlank c = true) (t : Text) :
    trimLeft (c :: t) = trimLeft t := by
  simp [trimLeft, hc]

/-- Nothing is dropped **in front of** another character. -/
theorem trimLeft_ink {c : Char} (hc : isBlank c = false) (t : Text) : trimLeft (c :: t) = c :: t := by
  simp [trimLeft, hc]

/-- White space **at the end** is dropped. -/
theorem trimRight_append_blank (t : Text) {c : Char} (hc : isBlank c = true) :
    trimRight (t ++ [c]) = trimRight t := by
  simp [trimRight, dropEndWhile, hc]

/-- Nothing is dropped **behind** another character. -/
theorem trimRight_append_ink (t : Text) {c : Char} (hc : isBlank c = false) :
    trimRight (t ++ [c]) = t ++ [c] := by
  simp [trimRight, dropEndWhile, hc]

/-- Nothing is dropped **up to** another character. -/
theorem trimRight_cons_ink {c : Char} (hc : isBlank c = false) (t : Text) :
    trimRight (c :: t) = c :: trimRight t := by
  rw [trimRight, trimRight, dropEndWhile, dropEndWhile, List.reverse_cons, List.dropWhile_append]
  split
  · next h =>
    have hnone : t.reverse.dropWhile isBlank = [] := List.isEmpty_iff.mp h
    simp [hnone, hc]
  · rw [List.reverse_append, List.reverse_singleton, List.singleton_append]

/-- Trimming passes over white space **in front**. -/
theorem trim_blank {c : Char} (hc : isBlank c = true) (t : Text) : trim (c :: t) = trim t := by
  rw [trim, trimLeft_blank hc, trim]

/-- Trimming passes over what **trimming in front** drops. -/
theorem trim_trimLeft (t : Text) : trim (trimLeft t) = trim t := by
  induction t with
  | nil => rfl
  | cons c t ih =>
      cases hc : isBlank c with
      | true => rw [trimLeft_blank hc, ih, trim_blank hc]
      | false => rw [trimLeft_ink hc]

/-- Trimming passes over white space **at the end**. -/
theorem trim_append_blank (t : Text) {c : Char} (hc : isBlank c = true) :
    trim (t ++ [c]) = trim t := by
  induction t with
  | nil => exact trim_blank hc []
  | cons d t ih =>
      cases hd : isBlank d with
      | true => rw [List.cons_append, trim_blank hd, trim_blank hd, ih]
      | false =>
        rw [trim, trim, List.cons_append, trimLeft_ink hd, trimLeft_ink hd, ← List.cons_append,
          trimRight_append_blank _ hc]

/-- A text is **trimmed** if and only if white space stands at neither end. -/
theorem trim_eq_self_iff (t : Text) :
    trim t = t ↔ (∀ c ∈ t.head?, isBlank c = false) ∧ ∀ c ∈ t.getLast?, isBlank c = false := by
  rcases List.eq_nil_or_concat t with rfl | ⟨front, last, rfl⟩
  · simp [trim, trimLeft, trimRight, dropEndWhile]
  · rw [List.concat_eq_append, List.getLast?_concat]
    cases hlast : isBlank last with
    | true =>
        -- one character at least is lost
        have hne : trim (front ++ [last]) ≠ front ++ [last] := by
          intro h
          have hlength := length_trim_le front
          rw [← trim_append_blank front hlast, h, List.length_append, List.length_singleton] at hlength
          omega
        simp [hne, hlast]
    | false =>
        constructor
        · intro h
          refine ⟨fun c hc => ?_, fun c hc => Option.mem_some.mp hc ▸ hlast⟩
          cases hblank : isBlank c with
          | false => rfl
          | true =>
              obtain ⟨rest, hrest⟩ := List.head?_eq_some_iff.mp hc
              have hlength := length_trim_le rest
              rw [hrest, trim_blank hblank] at h
              rw [h, List.length_cons] at hlength
              exact absurd hlength (Nat.not_succ_le_self _)
        · rintro ⟨hhead, -⟩
          have hleft : trimLeft (front ++ [last]) = front ++ [last] := by
            cases front with
            | nil => exact trimLeft_ink hlast []
            | cons c rest => exact trimLeft_ink (hhead c rfl) _
          rw [trim, hleft, trimRight_append_ink front hlast]

/-- A trimmed text **stays as it is**. -/
theorem trim_trim (t : Text) : trim (trim t) = trim t := by
  have hfirst : ∀ u : Text, ∀ c ∈ (u.dropWhile isBlank).head?, isBlank c = false := by
    intro u c hc
    have hnot := List.head?_dropWhile_not isBlank u
    rwa [Option.mem_def.mp hc] at hnot
  rw [trim_eq_self_iff]
  refine ⟨?_, fun c hc => ?_⟩
  · intro c hc
    rw [trim] at hc
    cases hleft : trimLeft t with
    | nil => simp [hleft, trimRight, dropEndWhile] at hc
    | cons d u =>
        have hd : isBlank d = false := hfirst t d (by rw [← trimLeft, hleft]; rfl)
        rw [hleft, trimRight_cons_ink hd] at hc
        exact Option.some.inj hc ▸ hd
  · rw [trim, trimRight, dropEndWhile, List.getLast?_reverse] at hc
    exact hfirst _ c hc

/-- Of a text trimming leaves **nothing** if and only if it is white space. -/
theorem trim_eq_nil_iff (t : Text) : trim t = [] ↔ ∀ c ∈ t, isBlank c = true := by
  induction t with
  | nil => simp [trim, trimLeft, trimRight, dropEndWhile]
  | cons c t ih =>
      cases hc : isBlank c with
      | true => rw [trim_blank hc, ih, List.forall_mem_cons, hc, eq_self_iff_true, true_and]
      | false => simp [trim, trimLeft_ink hc, trimRight_cons_ink hc, hc]

/-- Trimming **adds no character**. -/
theorem mem_of_mem_trim {c : Char} {t : Text} (h : c ∈ trim t) : c ∈ t := by
  have hright : c ∈ trimLeft t := by
    rw [trim, trimRight, dropEndWhile, List.mem_reverse] at h
    exact List.mem_reverse.mp ((List.dropWhile_sublist isBlank).subset h)
  exact (List.dropWhile_sublist isBlank).subset hright

/-- A text is trimmed if a trimmed text stands **at its end** and no white space in front. -/
theorem trim_cons_append {c : Char} (hc : isBlank c = false) (front : Text) {t : Text}
    (ht : trim t = t) (hne : t ≠ []) : trim (c :: (front ++ t)) = c :: (front ++ t) := by
  obtain ⟨init, last, rfl⟩ := (List.eq_nil_or_concat t).resolve_left hne
  rw [trim_eq_self_iff, List.concat_eq_append]
  refine ⟨fun d hd => ?_, fun d hd => ?_⟩
  · obtain rfl : c = d := by simpa using hd
    exact hc
  · refine ((trim_eq_self_iff _).mp ht).2 d ?_
    rw [List.concat_eq_append, List.getLast?_concat]
    rwa [← List.append_assoc, ← List.cons_append, List.getLast?_concat] at hd

/-! ### Values behind a colon -/

/-- What stands **behind a colon** on a trimmed line: the value with a blank in front, unless it is
empty. -/
def behindColon (value : Text) : Text := if value = [] then [] else ' ' :: value

/-- The value itself is found behind the colon by **trimming**. -/
theorem trim_behindColon {value : Text} (hvalue : trim value = value) :
    trim (behindColon value) = value := by
  unfold behindColon
  split
  · next hempty => rw [hempty]; rfl
  · rw [trim_blank rfl, hvalue]

/-- A line with a value behind a colon loses **the blank in front of an empty value** and nothing else. -/
theorem trim_append_value {c : Char} (hc : isBlank c = false) (front : Text) {value : Text}
    (hvalue : trim value = value) :
    trim (c :: (front ++ ':' :: ' ' :: value)) = c :: (front ++ ':' :: behindColon value) := by
  by_cases hempty : value = []
  · have hline : c :: (front ++ ':' :: ' ' :: value) = (c :: (front ++ [':'])) ++ [' '] := by
      simp [hempty]
    rw [hline, trim_append_blank _ rfl, trim_cons_append hc _ (by decide) (List.cons_ne_nil _ _),
      behindColon, if_pos hempty]
  · have hline : c :: (front ++ ':' :: ' ' :: value) = c :: ((front ++ [':', ' ']) ++ value) := by
      simp
    rw [hline, trim_cons_append hc _ hvalue hempty, behindColon, if_neg hempty]
    simp

/-! ### Lines -/

/-- A text is **unbroken** if no line ends in it. -/
def Unbroken (t : Text) : Prop := ∀ c ∈ t, isLineBreak c = false

/-- A text is **tidy** if it is trimmed and unbroken. -/
structure Tidy (t : Text) : Prop where
  trimmed : trim t = t
  unbroken : Unbroken t

instance (t : Text) : Decidable (Unbroken t) := List.decidableBAll _ t

instance (t : Text) : Decidable (Tidy t) :=
  decidable_of_iff (trim t = t ∧ Unbroken t) ⟨fun h => ⟨h.1, h.2⟩, fun h => ⟨h.1, h.2⟩⟩

/-- Two texts in a row are unbroken if and only if **both** are. -/
@[simp] theorem unbroken_append (t u : Text) : Unbroken (t ++ u) ↔ Unbroken t ∧ Unbroken u := by
  simp [Unbroken, or_imp, forall_and]

/-- A text is unbroken if and only if its **first character** ends no line and its rest is unbroken. -/
@[simp] theorem unbroken_cons (c : Char) (t : Text) :
    Unbroken (c :: t) ↔ isLineBreak c = false ∧ Unbroken t := by
  simp [Unbroken]

/-- The empty text is unbroken. -/
@[simp] theorem unbroken_nil : Unbroken [] := fun _ h => absurd h List.not_mem_nil

/-- A character that ends no line **belongs to the line** that follows it. -/
theorem lines_cons {c : Char} (hc : isLineBreak c = false) (t : Text) :
    lines (c :: t) = consHead c (lines t) := by
  have hreturn : c ≠ '\r' := by
    rintro rfl
    exact absurd hc (by decide)
  rw [lines]
  · simp [hc]
  · rintro rest rfl
    exact absurd rfl hreturn

/-- An unbroken text is a **single line**, unless it is empty. -/
theorem lines_of_unbroken {t : Text} (ht : Unbroken t) (hne : t ≠ []) : lines t = [t] := by
  induction t with
  | nil => exact absurd rfl hne
  | cons c t ih =>
      obtain ⟨hc, ht⟩ := (unbroken_cons c t).mp ht
      rw [lines_cons hc]
      cases t with
      | nil => rfl
      | cons d t => rw [ih ht (List.cons_ne_nil _ _), consHead]

/-- The first of the lines is what stands before the first **line feed**. -/
theorem lines_append_lineFeed {t : Text} (ht : Unbroken t) (rest : Text) :
    lines (t ++ '\n' :: rest) = t :: lines rest := by
  induction t with
  | nil =>
      rw [List.nil_append, lines]
      · rfl
      · rintro _ ⟨⟩
  | cons c t ih =>
      obtain ⟨hc, ht⟩ := (unbroken_cons c t).mp ht
      rw [List.cons_append, lines_cons hc, ih ht, consHead]

/-- **Joined lines are cut apart again**: texts that are unbroken and not empty are the lines of the text
that line feeds make of them. -/
theorem lines_join {ts : List Text} (hts : ∀ t ∈ ts, Unbroken t ∧ t ≠ []) :
    lines (join "\n" ts) = ts := by
  induction ts with
  | nil => rfl
  | cons t ts ih =>
      obtain ⟨ht, hne⟩ := hts t List.mem_cons_self
      cases ts with
      | nil => exact lines_of_unbroken ht hne
      | cons u ts =>
          have hjoin : join "\n" (t :: u :: ts) = t ++ '\n' :: join "\n" (u :: ts) := by
            simp [join]
          rw [hjoin, lines_append_lineFeed ht, ih fun t h => hts t (List.mem_cons_of_mem _ h)]

end Text

end PlainSpec
