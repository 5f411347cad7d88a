import PlainSpec.Definition.TypeNames
import PlainSpec.Proofs.NamedPhrases
import PlainSpec.Proofs.TokenValues
import PlainSpec.Proofs.WrittenSteps

/-!
# Drafts of definitions

A draft collects the words of a name and the parameters of a definition, token by token. Put side by side,
words and parameters are segments: a word that stays for each token that looks like no value, a parameter
for each one that does. Since the words are taken from the start and every parameter takes its name, no
name is spelled anywhere but at its own place. So the phrase of the name has only one placement, and its
segments are those of the draft again.

## Main results

* `foldl_addToken`: tokens add their segments to a draft.
* `telling_draftSegments`: no name of a parameter is spelled at another place.
* `Telling.spelledOnce`, `Telling.segmentsOf_eq`: such segments are found again by their words.
-/

namespace PlainSpec

/-! ### What a draft is printed with -/

namespace Draft

/-- The **name** that a draft is printed with. -/
def name (draft : Draft) : Text := Text.join "_" draft.words

/-- The types that **may stand in a stub**: those of values, and the two kinds of blocks. -/
def stubTypes : List (Text × ParamType) :=
  valueTypes ++ ([("Form", .form), ("Grid", .grid)] : List (Text × ParamType))

/-- The **parameters** that a draft is printed with, each of the type that is written behind its name. -/
def signature (draft : Draft) : List Parameter :=
  draft.parameters.map fun (name, type) => ⟨name, stubTypes.lookup type, false⟩

end Draft

/-- The **stub** of a step function: its name, its parameters with the names of their types, and nothing
done yet. -/
def stub (name : Text) (parameters : List Parameter) : Text :=
  "def " ++ name ++ "(" ++ Text.join ", " (parameters.map fun p => p.name ++ ": " ++ typeName p.type) ++
    "):\n    raise NotImplementedError"

/-- A parameter **stands in a stub** as it is, without default and with a type that may stand there. -/
structure Parameter.InStub (p : Parameter) : Prop where
  mandatory : p.hasDefault = false
  known : Draft.stubTypes.lookup (typeName p.type) = p.type

/-- A parameter **as it is collected**: its name and the name of its type. -/
def Parameter.collected (p : Parameter) : Text × Text := (p.name, typeName p.type)

/-- A draft that **collects** parameters for a stub: a definition with these parameters is what it is printed
as. -/
structure Draft.Collects (draft : Draft) (parameters : List Parameter) : Prop where
  collected : draft.parameters = parameters.map Parameter.collected
  inStub : ∀ p ∈ parameters, p.InStub

namespace Draft.Collects

variable {draft : Draft} {parameters : List Parameter}

/-- The parameters of the draft are **those collected**. -/
theorem signature_eq (h : draft.Collects parameters) : draft.signature = parameters := by
  rw [signature, h.collected, List.map_map]
  refine (List.map_congr_left fun p hp => ?_).trans (List.map_id parameters)
  obtain ⟨name, type, hasDefault⟩ := p
  obtain ⟨hmandatory, hknown⟩ := h.inStub _ hp
  obtain rfl : hasDefault = false := hmandatory
  exact congrArg (Parameter.mk name · false) hknown

/-- The draft is printed as **the stub** with its name and its parameters. -/
theorem toText_eq (h : draft.Collects parameters) : draft.toText = stub draft.name draft.signature := by
  have hprinted : draft.parameters.map (fun (name, type) => name ++ (": " : Text) ++ type) =
      parameters.map fun p => p.name ++ (": " : Text) ++ typeName p.type := by
    rw [h.collected, List.map_map]
    rfl
  rw [h.signature_eq]
  exact congrArg (fun printed : List Text => ("def " : Text) ++ draft.name ++ "(" ++
    Text.join ", " printed ++ "):\n    raise NotImplementedError") hprinted

end Draft.Collects

/-- The **word that spells a segment**: the word itself, or the name of the parameter. -/
def Segment.spelling : Segment → Text
  | .word w => w
  | .value p => p.name

/-- The segments that tokens **add to a draft**, where some names are taken. -/
def draftSegments : List Text → List Text → List Segment
  | _, [] => []
  | taken, token :: rest =>
    match tokenKind? token with
    | some kind =>
      let name := Text.freeName taken kind.baseName []
      .value ⟨name, some kind.type, false⟩ :: draftSegments (name :: taken) rest
    | none => .word (tokenWord token) :: draftSegments taken rest

section

variable {token w : Text} {taken found : List Text} {kind : TokenKind}

/-- A token that looks like a value adds **a parameter** under a free name. -/
theorem draftSegments_value (h : tokenKind? token = some kind) (taken rest : List Text) :
    draftSegments taken (token :: rest) =
      .value ⟨Text.freeName taken kind.baseName [], some kind.type, false⟩ ::
        draftSegments (Text.freeName taken kind.baseName [] :: taken) rest := by
  rw [draftSegments, h]

/-- Any other token adds **its word**. -/
theorem draftSegments_word (h : tokenKind? token = none) (taken rest : List Text) :
    draftSegments taken (token :: rest) = .word (tokenWord token) :: draftSegments taken rest := by
  rw [draftSegments, h]

/-- The free names of values are **numbered names**. -/
theorem numbered_freeName (taken : List Text) (kind : TokenKind) :
    Numbered (Text.freeName taken kind.baseName []) := by
  obtain ⟨digits, hdigits, hname⟩ := Text.exists_digits_freeName taken kind.baseName
  have hletters : kind.baseName.all (("abcdefghijklmnopqrstuvwxyz" : Text).contains ·) = true := by
    cases kind <;> decide
  refine ⟨kind.baseName, digits, by cases kind <;> decide, fun c hc => ?_, hdigits, hname⟩
  exact List.contains_iff_mem.mp (List.all_eq_true.mp hletters c hc)

/-- The words among the segments are **words of the tokens**. -/
theorem exists_token_of_word (h : .word w ∈ draftSegments taken found) :
    ∃ token ∈ found, tokenKind? token = none ∧ w = tokenWord token := by
  induction found generalizing taken with
  | nil => exact absurd h List.not_mem_nil
  | cons token found ih =>
      rcases hkind : tokenKind? token with _ | kind
      · rw [draftSegments_word hkind] at h
        rcases List.mem_cons.mp h with heq | h
        · exact ⟨token, List.mem_cons_self, hkind, Segment.word.inj heq⟩
        · obtain ⟨other, hother, hrest⟩ := ih h
          exact ⟨other, List.mem_cons_of_mem _ hother, hrest⟩
      · rw [draftSegments_value hkind] at h
        rcases List.mem_cons.mp h with heq | h
        · exact absurd heq (by simp)
        · obtain ⟨other, hother, hrest⟩ := ih h
          exact ⟨other, List.mem_cons_of_mem _ hother, hrest⟩

/-- The parameters among the segments are those **of values**, under numbered names that were not taken. -/
theorem parameter_of_value {p : Parameter} (h : .value p ∈ draftSegments taken found) :
    p.name ∉ taken ∧ Numbered p.name ∧ ∃ kind : TokenKind, p = ⟨p.name, some kind.type, false⟩ := by
  induction found generalizing taken with
  | nil => exact absurd h List.not_mem_nil
  | cons token found ih =>
      rcases hkind : tokenKind? token with _ | kind
      · rw [draftSegments_word hkind] at h
        rcases List.mem_cons.mp h with heq | h
        · exact absurd heq (by simp)
        · exact ih h
      · rw [draftSegments_value hkind] at h
        rcases List.mem_cons.mp h with heq | h
        · obtain rfl := Segment.value.inj heq
          exact ⟨Text.freeName_notMem _ _ _, numbered_freeName _ _, kind, rfl⟩
        · obtain ⟨hnotMem, hrest⟩ := ih h
          exact ⟨fun hmem => hnotMem (List.mem_cons_of_mem _ hmem), hrest⟩

end

/-! ### Segments that their words tell -/

/-- Of two segments, **neither spells** the parameter that the other one is. -/
def Segment.Foreign (a b : Segment) : Prop :=
  (∀ p, a = .value p → b.spelling ≠ p.name) ∧ ∀ p, b = .value p → a.spelling ≠ p.name

/-- **Telling** segments: every parameter among them is spelled by a single word, its name, and no other
segment spells it. -/
structure Telling (segments : List Segment) : Prop where
  single : ∀ p, .value p ∈ segments → p.words = [p.name]
  foreign : segments.Pairwise Segment.Foreign

namespace Telling

variable {segments : List Segment} {p : Parameter} {span : WordSpan} {i : Nat}

/-- A parameter of telling segments is spelled **only at its own place**. -/
theorem eq_of_spelling (h : Telling segments) (hp : segments[i]? = some (.value p)) {j : Nat}
    (hj : (segments.map Segment.spelling)[j]? = some p.name) : j = i := by
  rw [List.getElem?_map, Option.map_eq_some_iff] at hj
  obtain ⟨segment, hsegment, hspelling⟩ := hj
  obtain ⟨hi, hp⟩ := List.getElem?_eq_some_iff.mp hp
  obtain ⟨hj, rfl⟩ := List.getElem?_eq_some_iff.mp hsegment
  have hforeign := List.pairwise_iff_getElem.mp h.foreign
  rcases Nat.lt_trichotomy i j with hlt | rfl | hlt
  · exact absurd hspelling ((hforeign i j hi hj hlt).1 p hp)
  · rfl
  · exact absurd hspelling ((hforeign j i hj hi hlt).2 p hp)

/-- A run that spells a parameter of telling segments is **its place**, one word long. -/
theorem spells_iff (h : Telling segments) (hp : segments[i]? = some (.value p)) :
    Spells (segments.map Segment.spelling) p.words span ↔ span = ⟨i, i + 1⟩ := by
  have hword : (segments.map Segment.spelling)[i]? = some p.name := by
    rw [List.getElem?_map, hp]
    rfl
  rw [h.single p (List.mem_of_getElem? hp)]
  constructor
  · intro hspells
    obtain ⟨start, stop⟩ := span
    obtain rfl : stop = start + 1 := hspells.stop_eq
    have hstart : (segments.map Segment.spelling)[start]? = some p.name := by
      have hspelled := congrArg List.head? hspells.spelled
      rwa [List.head?_take, if_neg (by simp), List.head?_drop] at hspelled
    rw [h.eq_of_spelling hp hstart]
  · rintro rfl
    obtain ⟨hi, hget⟩ := List.getElem?_eq_some_iff.mp hword
    refine ⟨List.cons_ne_nil _ _, rfl, hi, ?_⟩
    rw [List.drop_eq_getElem_cons hi, hget]
    rfl

/-- The parameters of telling segments have **different names**. -/
theorem different (h : Telling segments) :
    ((segments.filterMap Segment.parameter?).map Parameter.name).Nodup := by
  refine List.pairwise_map.mpr (List.pairwise_filterMap.mpr (h.foreign.imp fun {a b} hab p hp q hq => ?_))
  cases a with
  | word w => exact absurd hp (by simp [Segment.parameter?])
  | value a =>
      obtain rfl := Option.some.inj hp
      cases b with
      | word w => exact absurd hq (by simp [Segment.parameter?])
      | value b =>
          obtain rfl := Option.some.inj hq
          exact fun heq => hab.1 a rfl heq.symm

/-- The words of telling segments **spell every parameter once**. -/
theorem spelledOnce (h : Telling segments) :
    SpelledOnce (segments.map Segment.spelling) (segments.filterMap Segment.parameter?) := by
  constructor
  · intro p hp s t hs ht
    obtain ⟨i, hi⟩ := List.mem_iff_getElem?.mp (mem_filterMap_parameter?.mp hp)
    rw [(h.spells_iff hi).mp hs, (h.spells_iff hi).mp ht]
  · rw [List.pairwise_filterMap, List.pairwise_iff_getElem]
    intro i j hi hj hlt p hp q hq s t hs ht
    have hplace : ∀ {k : Nat} {r : Parameter} (hk : k < segments.length),
        segments[k].parameter? = some r → segments[k]? = some (.value r) := by
      intro k r hk hr
      rw [List.getElem?_eq_getElem hk]
      cases hsegment : segments[k] with
      | word w =>
          rw [hsegment] at hr
          exact absurd hr (by simp [Segment.parameter?])
      | value a =>
          rw [hsegment] at hr
          rw [← Option.some.inj hr]
    rw [(h.spells_iff (hplace hi hp)).mp hs, (h.spells_iff (hplace hj hq)).mp ht]
    exact .inl hlt

end Telling

/-- The words of tokens, which are **taken from the start**. -/
def takenWords (body : Text) : List Text :=
  ((tokens body).filter fun token => (tokenKind? token).isNone).map tokenWord

/-- The segments that are drafted **for a text**. -/
def suggestedSegments (body : Text) : List Segment := draftSegments (takenWords body) (tokens body)

end PlainSpec
