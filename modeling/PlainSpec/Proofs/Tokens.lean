import PlainSpec.Proofs.PhraseReading
import PlainSpec.Proofs.PreferredWay
import PlainSpec.Verification.Suggestion

/-!
# Tokens of a line

A token begins at the first character that is not white space. A quotation mark begins a token that ends with
the next mark of the same kind, if there is one; any other token ends in front of white space. So whether a
mark begins a quoted text is decided by all that follows, and a token is described together with the rest of
the line behind it.

## Main results

* `exists_tokenBefore`: how the first token of a text stands in front of the rest.
* `tokenized_of_spaced`: a text that consists of its tokens, with white space between neighbours, is cut into
  them one by one.
-/

namespace PlainSpec

/-- A **quotation mark**, of either kind. -/
def IsMark (c : Char) : Prop := c = '"' ∨ c = '\''

instance (c : Char) : Decidable (IsMark c) := inferInstanceAs (Decidable (_ ∨ _))

/-- **How a token stands** in front of the rest of a text: it is quoted, or a run of other characters than
white space, which a mark begins only if no other such mark follows. -/
inductive TokenBefore (rest : Text) : Text → Prop
  | quoted {mark : Char} {s : Text} :
      IsMark mark → mark ∉ s → TokenBefore rest (mark :: (s ++ [mark]))
  | run {c : Char} {t : Text} :
      isBlank c = false → (IsMark c → c ∉ t ++ rest) → (∀ d ∈ t, isBlank d = false) →
      TokenBefore rest (c :: t)

/-- A token **begins with ink**. -/
theorem TokenBefore.exists_ink {rest token : Text} (h : TokenBefore rest token) :
    ∃ c u, token = c :: u ∧ isBlank c = false := by
  cases h with
  | @quoted mark s hmark _ =>
      rcases hmark with rfl | rfl <;> exact ⟨_, _, rfl, rfl⟩
  | run hc _ _ => exact ⟨_, _, rfl, hc⟩

/-! ### The first token -/

section

variable {c mark : Char} {s t rest : Text}

/-- Characters that **belong to the token before** are passed over. -/
theorem tokensFrom_eq (skip : Nat) (t : Text) : tokensFrom skip t = tokens (t.drop skip) := by
  induction t generalizing skip with
  | nil => cases skip <;> rfl
  | cons c t ih =>
      cases skip with
      | zero => rfl
      | succ skip => exact ih skip

/-- White space in front **belongs to no token**. -/
theorem tokens_blank (hc : isBlank c = true) (t : Text) : tokens (c :: t) = tokens t := by
  rw [tokens, tokensFrom, if_pos hc, tokens]

/-- White space in front belongs to no token, **however long** it is. -/
theorem tokens_gap {gap : Text} (hgap : ∀ c ∈ gap, isBlank c = true) (t : Text) :
    tokens (gap ++ t) = tokens t := by
  induction gap with
  | nil => rfl
  | cons c gap ih =>
      obtain ⟨hc, hgap⟩ := List.forall_mem_cons.mp hgap
      rw [List.cons_append, tokens_blank hc, ih hgap]

/-- What is left of a quoted text **behind its closing mark**. -/
theorem afterQuoted?_append (hs : mark ∉ s) (rest : Text) :
    afterQuoted? mark (s ++ mark :: rest) = some rest := by
  have hdrop : (s ++ mark :: rest).dropWhile (· != mark) = mark :: rest := by
    rw [List.dropWhile_append_of_pos fun c hc => by
      rw [bne_iff_ne]
      exact fun heq => hs (heq ▸ hc)]
    rw [List.dropWhile_cons, if_neg (by simp)]
  rw [afterQuoted?, hdrop]

/-- Without a further mark **no text is quoted**. -/
theorem afterQuoted?_of_notMem (ht : mark ∉ t) : afterQuoted? mark t = none := by
  have hdrop : t.dropWhile (· != mark) = [] := by
    rw [List.dropWhile_eq_nil_iff]
    intro c hc
    rw [bne_iff_ne]
    exact fun heq => ht (heq ▸ hc)
  rw [afterQuoted?, hdrop]

/-- A **quoted token** ends with the next mark of its kind. -/
theorem tokens_quoted (hmark : IsMark mark) (hs : mark ∉ s) (rest : Text) :
    tokens (mark :: (s ++ mark :: rest)) = (mark :: (s ++ [mark])) :: tokens rest := by
  have hblank : isBlank mark = false := by rcases hmark with rfl | rfl <;> rfl
  have htest : (decide (mark = '"') || decide (mark = '\'')) = true := by
    rcases hmark with rfl | rfl <;> rfl
  have hsplit : s ++ mark :: rest = (s ++ [mark]) ++ rest := by simp
  have htoken : (mark :: (s ++ mark :: rest)).take
      ((s ++ mark :: rest).length + 1 - rest.length) = mark :: (s ++ [mark]) := by
    have hlength : (s ++ mark :: rest).length + 1 - rest.length = (mark :: (s ++ [mark])).length := by
      simp only [List.length_append, List.length_cons, List.length_nil]
      omega
    rw [hlength, hsplit]
    exact List.take_left
  have hskip : (mark :: (s ++ [mark])).length - 1 = (s ++ [mark]).length := rfl
  rw [tokens, tokensFrom, if_neg (by simp [hblank])]
  simp only [htest, if_true, afterQuoted?_append hs, htoken, hskip, tokensFrom_eq]
  rw [hsplit, List.drop_left]

/-- Any other token **ends in front of white space**. -/
theorem tokens_run (hc : isBlank c = false) (hopen : IsMark c → c ∉ t ++ rest)
    (ht : ∀ d ∈ t, isBlank d = false) (hrest : CharKind.ink.Stops rest) :
    tokens (c :: (t ++ rest)) = (c :: t) :: tokens rest := by
  have hafter : (if (decide (c = '"') || decide (c = '\'')) = true then afterQuoted? c (t ++ rest)
      else none) = none := by
    split
    · next hmark =>
      rw [Bool.or_eq_true, decide_eq_true_eq, decide_eq_true_eq] at hmark
      exact afterQuoted?_of_notMem (hopen hmark)
    · rfl
  have hbehind : rest.takeWhile (fun d => !isBlank d) = [] := by
    cases rest with
    | nil => rfl
    | cons d rest =>
        have hd : (!isBlank d) = false := hrest d rfl
        rw [List.takeWhile_cons, hd, if_neg Bool.false_ne_true]
  have htoken : (c :: (t ++ rest)).takeWhile (fun d => !isBlank d) = c :: t := by
    rw [← List.cons_append, List.takeWhile_append_of_pos, hbehind, List.append_nil]
    intro d hd
    rcases List.mem_cons.mp hd with rfl | hd
    · simp [hc]
    · simp [ht d hd]
  have hskip : (c :: t).length - 1 = t.length := rfl
  rw [tokens, tokensFrom, if_neg (by simp [hc])]
  simp only [hafter, htoken, hskip, tokensFrom_eq]
  rw [List.drop_left]

/-- **The first token** of a text that begins with ink, and the rest of the text behind it. -/
theorem exists_tokenBefore (hc : isBlank c = false) (t : Text) :
    ∃ token rest, c :: t = token ++ rest ∧ TokenBefore rest token ∧
      tokens (c :: t) = token :: tokens rest := by
  by_cases hquoted : IsMark c ∧ c ∈ t
  · obtain ⟨s, rest, rfl, hs⟩ := List.eq_append_cons_of_mem hquoted.2
    exact ⟨_, rest, by simp, .quoted hquoted.1 hs, tokens_quoted hquoted.1 hs rest⟩
  · have hsplit : t = t.takeWhile (fun d => !isBlank d) ++ t.dropWhile (fun d => !isBlank d) :=
      List.takeWhile_append_dropWhile.symm
    have hink : ∀ d ∈ t.takeWhile (fun d => !isBlank d), isBlank d = false := fun d hd => by
      simpa using List.mem_takeWhile_imp hd
    have hstops : CharKind.ink.Stops (t.dropWhile fun d => !isBlank d) := by
      intro d hd
      have hnot := List.head?_dropWhile_not (fun d => !isBlank d) t
      rw [hd] at hnot
      exact hnot
    have hopen : IsMark c →
        c ∉ t.takeWhile (fun d => !isBlank d) ++ t.dropWhile (fun d => !isBlank d) := by
      rw [← hsplit]
      exact fun hmark hmem => hquoted ⟨hmark, hmem⟩
    refine ⟨c :: t.takeWhile (fun d => !isBlank d), t.dropWhile (fun d => !isBlank d), ?_,
      .run hc (fun hmark => hopen hmark) hink, ?_⟩
    · rw [List.cons_append, ← hsplit]
    · rw [← tokens_run hc hopen hink hstops, ← hsplit]

end

/-! ### Cutting a line -/

/-- **A line is cut** into tokens, each with the rest of the line behind it and white space between
neighbours. -/
inductive Tokenized : List Text → Text → Prop
  | last {token : Text} : TokenBefore [] token → Tokenized [token] token
  | next {token gap line : Text} {others : List Text} :
      TokenBefore (gap ++ line) token → gap ≠ [] → (∀ c ∈ gap, isBlank c = true) → Tokenized others line →
      Tokenized (token :: others) (token ++ (gap ++ line))

/-- A token that a line is cut into **begins with ink**. -/
theorem Tokenized.exists_ink {found : List Text} {line : Text} (h : Tokenized found line) :
    ∀ token ∈ found, ∃ c u, token = c :: u ∧ isBlank c = false := by
  induction h with
  | last h => exact List.forall_mem_singleton.mpr h.exists_ink
  | next h _ _ _ ih => exact List.forall_mem_cons.mpr ⟨h.exists_ink, ih⟩

/-- The first of the tokens of a text **begins with ink**. -/
theorem exists_ink_of_tokens {token line : Text} {others : List Text}
    (h : tokens line = token :: others) : ∃ c u, token = c :: u ∧ isBlank c = false := by
  induction line with
  | nil => exact absurd h (by simp [tokens, tokensFrom])
  | cons c line ih =>
      cases hc : isBlank c with
      | true =>
          rw [tokens_blank hc] at h
          exact ih h
      | false =>
          obtain ⟨first, rest, -, hbefore, htokens⟩ := exists_tokenBefore hc line
          rw [htokens] at h
          exact (List.cons.inj h).1 ▸ hbefore.exists_ink

/-- If the first of the tokens of a text stands **at its beginning**, it stands there as a token, and the
other tokens are those of the rest. -/
theorem tokenBefore_of_tokens {token rest : Text} {others : List Text}
    (h : tokens (token ++ rest) = token :: others) : TokenBefore rest token ∧ tokens rest = others := by
  obtain ⟨c, u, rfl, hc⟩ := exists_ink_of_tokens h
  obtain ⟨first, behind, hline, hbefore, htokens⟩ := exists_tokenBefore hc (u ++ rest)
  rw [List.cons_append] at h
  obtain ⟨rfl, rfl⟩ := List.cons.inj (htokens.symm.trans h)
  obtain rfl := List.append_cancel_left (show (c :: u) ++ rest = (c :: u) ++ behind from hline)
  exact ⟨hbefore, rfl⟩

/-- **A text that consists of its tokens**, with white space between neighbours, is cut into them. -/
theorem tokenized_of_spaced {body : Text} (h : Spaced (tokens body) body) (hne : tokens body ≠ []) :
    Tokenized (tokens body) body := by
  generalize htokens : tokens body = texts at h hne
  induction h with
  | none => exact absurd rfl hne
  | last t =>
      have hfirst : tokens (t ++ []) = [t] := by rw [List.append_nil, htokens]
      exact .last (tokenBefore_of_tokens hfirst).1
  | @next t u gap line texts hgap hblank _ ih =>
      rw [List.append_assoc] at htokens ⊢
      obtain ⟨hbefore, hrest⟩ := tokenBefore_of_tokens htokens
      rw [tokens_gap hblank] at hrest
      exact .next hbefore hgap hblank (ih hrest (List.cons_ne_nil _ _))

end PlainSpec
