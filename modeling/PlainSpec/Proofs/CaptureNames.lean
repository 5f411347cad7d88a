import PlainSpec.Proofs.NamedPhrases
import PlainSpec.Proofs.PhrasePatterns

/-!
# Names of captures

A capture is named after its parameter if that name is an identifier. For any other name one is made up, from
the position of the parameter. A name that is made up can be used, but nothing keeps it from being the name of
another parameter: then the two **clash**.

This module says what comes of it. If no names clash, then all patterns of a definition can be used, whatever
the names of its parameters are. If names clash, then none can.

## Main results

* `chosenNames_nodup_iff`: the names that are chosen are different unless names clash.
* `phrasePatterns_served`: a pattern that is made can be used exactly if they are different.
* `Definition.compile_of_different`, `Definition.compile_of_clashing`: what making the patterns gives.
-/

namespace PlainSpec

/-! ### Choosing names -/

/-- The **name that is chosen** for the capture of a parameter at a position. -/
def chosenName (index : Nat) (p : Parameter) : Text :=
  if isIdentifier p.name then p.name else "arg" ++ Text.ofNat index

/-- The names that are chosen for the captures of **several** parameters. -/
def chosenNames (parameters : List Parameter) : List Text := parameters.mapIdx chosenName

/-- Parameters whose names **clash**: the name of one is an identifier, and the name that is made up for another
one. -/
def Clashing (parameters : List Parameter) : Prop :=
  ∃ (i j : Nat) (p q : Parameter), parameters[i]? = some p ∧ parameters[j]? = some q ∧
    isIdentifier p.name = true ∧ isIdentifier q.name = false ∧ p.name = "arg" ++ Text.ofNat j

/-- A chosen name is **an identifier**. -/
theorem isIdentifier_chosenName (index : Nat) (p : Parameter) : isIdentifier (chosenName index p) = true := by
  unfold chosenName
  split
  · assumption
  · have hdigits : (Text.ofNat index).all continuesIdentifier = true := by
      rw [List.all_eq_true]
      exact fun c hc => forall_isDigit (by decide) (digits_ofNat index c hc)
    have hname : ("arg" : Text) ++ Text.ofNat index = 'a' :: ("rg" ++ Text.ofNat index) := rfl
    rw [hname, isIdentifier, List.all_append, hdigits]
    decide

section

variable {parameters : List Parameter} {p : Parameter} {i : Nat}

/-- The name chosen **at a position**. -/
theorem getElem?_chosenNames (parameters : List Parameter) (i : Nat) :
    (chosenNames parameters)[i]? = parameters[i]?.map (chosenName i) := List.getElem?_mapIdx

/-- Different names stand **at different positions**. -/
theorem index_eq_of_name (hdifferent : (parameters.map Parameter.name).Nodup) {j : Nat} {q : Parameter}
    (hp : parameters[i]? = some p) (hq : parameters[j]? = some q) (hname : p.name = q.name) : i = j := by
  have hlength : i < (parameters.map Parameter.name).length := by
    rw [List.length_map]
    exact (List.getElem?_eq_some_iff.mp hp).1
  refine (List.getElem?_inj hlength hdifferent).mp ?_
  rw [List.getElem?_map, List.getElem?_map, hp, hq, Option.map_some, Option.map_some, hname]

/-- The chosen names are **different unless names clash**. -/
theorem chosenNames_nodup_iff (hdifferent : (parameters.map Parameter.name).Nodup) :
    (chosenNames parameters).Nodup ↔ ¬Clashing parameters := by
  constructor
  · rintro hnodup ⟨i, j, p, q, hp, hq, hidentifier, hother, hname⟩
    have hlength : i < (chosenNames parameters).length := by
      rw [chosenNames, List.length_mapIdx]
      exact (List.getElem?_eq_some_iff.mp hp).1
    have hsame : (chosenNames parameters)[i]? = (chosenNames parameters)[j]? := by
      rw [getElem?_chosenNames, getElem?_chosenNames, hp, hq, Option.map_some, Option.map_some, chosenName,
        chosenName, if_pos hidentifier, hother, if_neg Bool.false_ne_true, hname]
    obtain rfl := (List.getElem?_inj hlength hnodup).mp hsame
    obtain rfl := Option.some.inj (hp.symm.trans hq)
    exact absurd hidentifier (by simp [hother])
  · intro hclash
    rw [List.nodup_iff_getElem?_ne_getElem?]
    intro i j hij hj hsame
    rw [chosenNames, List.length_mapIdx] at hj
    have hp := List.getElem?_eq_getElem (Nat.lt_trans hij hj)
    have hq := List.getElem?_eq_getElem hj
    rw [getElem?_chosenNames, getElem?_chosenNames, hp, hq, Option.map_some, Option.map_some,
      Option.some.injEq] at hsame
    unfold chosenName at hsame
    -- a name that is made up tells its position, so that one of the two is the name of a parameter
    split at hsame <;> split at hsame
    · exact absurd (index_eq_of_name hdifferent hp hq hsame) (Nat.ne_of_lt hij)
    · next hidentifier hother =>
      exact hclash ⟨i, j, _, _, hp, hq, hidentifier, by simpa using hother, hsame⟩
    · next hother hidentifier =>
      exact hclash ⟨j, i, _, _, hq, hp, hidentifier, by simpa using hother, hsame.symm⟩
    · exact absurd (Text.ofNat_injective (List.append_cancel_left hsame)) (Nat.ne_of_lt hij)

/-- The name that is **looked up** for the capture of a parameter. -/
def captureNameOf (parameters : List Parameter) (p : Parameter) : Text :=
  ((captureNames parameters).lookup p.name).getD []

/-- With different names, the name that is looked up is **the chosen one**. -/
theorem captureNameOf_eq (hdifferent : (parameters.map Parameter.name).Nodup)
    (hp : parameters[i]? = some p) : captureNameOf parameters p = chosenName i p := by
  have hkeys : ((parameters.zipIdx.map fun entry => (entry.1.name, chosenName entry.2 entry.1)).map
      Prod.fst).Nodup := by
    have hnames := hdifferent
    rw [← List.zipIdx_map_fst 0 parameters, List.map_map] at hnames
    rwa [List.map_map]
  have hnames : captureNames parameters =
      parameters.zipIdx.map fun entry => (entry.1.name, chosenName entry.2 entry.1) :=
    Entries.ofPairs_eq_self hkeys
  have hmem : (p.name, chosenName i p) ∈
      parameters.zipIdx.map fun entry => (entry.1.name, chosenName entry.2 entry.1) :=
    List.mem_map.mpr ⟨(p, i), List.mk_mem_zipIdx_iff_getElem?.mpr hp, rfl⟩
  rw [captureNameOf, hnames, Entries.lookup_of_mem hkeys hmem, Option.getD_some]

/-- With different names, the names that are looked up are **the chosen ones**. -/
theorem map_captureNameOf (hdifferent : (parameters.map Parameter.name).Nodup) :
    parameters.map (captureNameOf parameters) = chosenNames parameters := by
  refine List.ext_getElem? fun i => ?_
  rw [getElem?_chosenNames, List.getElem?_map]
  cases hp : parameters[i]? with
  | none => rfl
  | some p => rw [Option.map_some, Option.map_some, captureNameOf_eq hdifferent hp]

/-- The name that is looked up is **an identifier**. -/
theorem isIdentifier_captureNameOf (hdifferent : (parameters.map Parameter.name).Nodup)
    (hp : p ∈ parameters) : isIdentifier (captureNameOf parameters p) = true := by
  obtain ⟨i, hi⟩ := List.getElem?_of_mem hp
  rw [captureNameOf_eq hdifferent hi]
  exact isIdentifier_chosenName i p

end

/-! ### Patterns of served parameters -/

/-- Parameters that the customary catalog **serves**, under different names of any kind. -/
structure ServedParameters (parameters : List Parameter) : Prop where
  served : ∀ p ∈ parameters, Catalog.standard.handles p.type = true
  different : (parameters.map Parameter.name).Nodup

/-- The **pattern of a placement**, with the names chosen for the parameters. -/
def namedPattern (parameters : List Parameter) (words : List Text) (placement : Placement) : LinePattern :=
  ⟨joinParts ((segmentsOf words placement).map (Segment.partBy (valuePart (captureNames parameters))))⟩

namespace ServedParameters

variable {parameters : List Parameter} {p : Parameter} {phrase : Text} {placement : Placement}

/-- The pattern of a served parameter captures it **under the chosen name**, and is made by the kind of values that
serves its type. -/
theorem exists_pattern_eq (h : ServedParameters parameters) (hp : p ∈ parameters) :
    ∃ kind ∈ Catalog.standard, kind.handles (unwrapType p.type).1 = true ∧
      (valuePart (captureNames parameters) p).pattern = kind.pattern (unwrapType p.type).1 (unwrapType p.type).2
        (captureNameOf parameters p) := by
  obtain ⟨-, kind, hkind, hhandles, hvalue⟩ := exists_valuePart_eq (h.served p hp) (captureNames parameters)
  exact ⟨kind, hkind, hhandles, by rw [hvalue]; rfl⟩

/-- Served parameters are captured **under the chosen names**. -/
theorem capturesByName (h : ServedParameters parameters) :
    CapturesByName parameters (valuePart (captureNames parameters)) (captureNameOf parameters) where
  captures p hp := by
    obtain ⟨kind, -, -, hpattern⟩ := h.exists_pattern_eq hp
    rw [hpattern]
    exact InlineKind.captureNames_pattern (not_mem_of_isIdentifier (isIdentifier_captureNameOf h.different hp))
  plain p hp := by
    obtain ⟨kind, -, -, hpattern⟩ := h.exists_pattern_eq hp
    rw [hpattern]
    exact InlineKind.isPlain_pattern (not_mem_of_isIdentifier (isIdentifier_captureNameOf h.different hp))
  identifier _ hp := isIdentifier_captureNameOf h.different hp

/-- The pattern of a placement **can be used** exactly if the chosen names are different. -/
theorem isUsable_iff (h : ServedParameters parameters)
    (hp : IsPlacement ((Text.words phrase).map Text.lower) parameters placement) :
    (namedPattern parameters (Text.words phrase) placement).inner.isUsable = true ↔
      (chosenNames parameters).Nodup := by
  rw [namedPattern, h.capturesByName.isUsable_iff (h.different.of_map _) hp, map_captureNameOf h.different]

end ServedParameters

/-! ### The patterns of a phrase -/

/-- Dropping repetitions keeps **what has been seen** and adds nothing but what comes. -/
theorem mem_foldl_unseen {α : Type} (key : α → Text) (l : List α) : ∀ (seen : List α) (a : α),
    (a ∈ seen → a ∈ l.foldl (fun seen a => if seen.any fun b => key b == key a then seen else seen ++ [a])
      seen) ∧
      (a ∈ l.foldl (fun seen a => if seen.any fun b => key b == key a then seen else seen ++ [a]) seen →
        a ∈ seen ∨ a ∈ l) := by
  induction l with
  | nil => exact fun seen a => ⟨id, .inl⟩
  | cons b l ih =>
      intro seen a
      rw [List.foldl_cons]
      split
      · exact ⟨(ih seen a).1, fun h => ((ih seen a).2 h).imp_right (List.mem_cons_of_mem _)⟩
      · refine ⟨fun h => (ih _ a).1 (List.mem_append_left _ h), fun h => ?_⟩
        rcases (ih _ a).2 h with h | h
        · rcases List.mem_append.mp h with h | h
          · exact .inl h
          · exact .inr (List.mem_cons.mpr (.inl (List.mem_singleton.mp h)))
        · exact .inr (List.mem_cons_of_mem _ h)

/-- **The patterns of served parameters**: they can be made, each for a placement, and there is one if there is
a placement. Each can be used exactly if the chosen names are different. -/
theorem phrasePatterns_served (phrase : Text) {parameters : List Parameter}
    (h : ServedParameters parameters) :
    ∃ patterns, phrasePatterns Catalog.standard phrase parameters = .ok patterns ∧
      (∀ pattern ∈ patterns, ∃ placement,
        IsPlacement ((Text.words phrase).map Text.lower) parameters placement ∧
          pattern = namedPattern parameters (Text.words phrase) placement) ∧
      (∀ pattern ∈ patterns, pattern.inner.isUsable = true ↔ (chosenNames parameters).Nodup) ∧
      (patterns = [] ↔ placements ((Text.words phrase).map Text.lower) parameters = []) := by
  have hmem := mem_foldl_unseen LinePattern.source
    ((placements ((Text.words phrase).map Text.lower) parameters).map
      (namedPattern parameters (Text.words phrase)))
  have hplaced : ∀ pattern ∈ ((placements ((Text.words phrase).map Text.lower) parameters).map
      (namedPattern parameters (Text.words phrase))).foldl (fun seen p =>
        if seen.any fun q => q.source == p.source then seen else seen ++ [p]) [],
      ∃ placement, IsPlacement ((Text.words phrase).map Text.lower) parameters placement ∧
        pattern = namedPattern parameters (Text.words phrase) placement := by
    intro pattern hin
    obtain ⟨placement, hplacement, rfl⟩ :=
      List.mem_map.mp (((hmem [] pattern).2 hin).resolve_left List.not_mem_nil)
    exact ⟨placement, mem_placements_iff.mp hplacement, rfl⟩
  have hpart := fun p hp => (exists_valuePart_eq (h.served p hp) (captureNames parameters)).1
  rw [phrasePatterns_of_parts hpart phrase]
  refine ⟨_, rfl, hplaced, fun pattern hin => ?_, fun hnil => ?_, fun hnil => ?_⟩
  · obtain ⟨placement, hplacement, rfl⟩ := hplaced pattern hin
    exact h.isUsable_iff hplacement
  · -- the first pattern is never dropped
    cases hplacements : placements ((Text.words phrase).map Text.lower) parameters with
    | nil => rfl
    | cons first rest =>
        rw [hplacements, List.map_cons, List.foldl_cons] at hnil
        have hfirst := (mem_foldl_unseen LinePattern.source
          (rest.map (namedPattern parameters (Text.words phrase)))
          [namedPattern parameters (Text.words phrase) first] _).1 List.mem_cons_self
        exact absurd (hnil ▸ hfirst) List.not_mem_nil
  · rw [hnil]
    rfl

/-! ### The patterns of a definition -/

namespace Definition

variable {d : Definition}

/-- Where the chosen names are different, the patterns **can be made**, each for a placement. -/
theorem compile_of_different (h : ServedParameters d.inlineParameters) (hpatterns : d.patterns = none)
    (hnames : (chosenNames d.inlineParameters).Nodup) :
    ∃ patterns, d.compile Catalog.standard = .ok (patterns, { d with patterns := some patterns }) ∧
      ∀ pattern ∈ patterns, ∃ placement,
        IsPlacement ((Text.words d.phrase).map Text.lower) d.inlineParameters placement ∧
          pattern = namedPattern d.inlineParameters (Text.words d.phrase) placement := by
  obtain ⟨patterns, hmade, hplaced, husable, -⟩ := phrasePatterns_served d.phrase h
  have hall : patterns.all (fun p => p.inner.isUsable) = true :=
    List.all_eq_true.mpr fun pattern hpattern => (husable pattern hpattern).mpr hnames
  refine ⟨patterns, ?_, hplaced⟩
  rw [compile, hpatterns]
  simp only [hmade, hall, if_pos]

/-- Where they are not, making the patterns **fails**, if there are any to be made. -/
theorem compile_of_clashing (h : ServedParameters d.inlineParameters) (hpatterns : d.patterns = none)
    (hnames : ¬(chosenNames d.inlineParameters).Nodup) :
    d.compile Catalog.standard =
      if placements ((Text.words d.phrase).map Text.lower) d.inlineParameters = [] then
        .ok ([], { d with patterns := some [] })
      else .error .unusablePattern := by
  obtain ⟨patterns, hmade, -, husable, hnil⟩ := phrasePatterns_served d.phrase h
  rw [compile, hpatterns]
  simp only [hmade]
  cases patterns with
  | nil => rw [if_pos (hnil.mp rfl)]; rfl
  | cons pattern rest =>
      have hunusable : ¬pattern.inner.isUsable = true := fun hin =>
        hnames ((husable pattern List.mem_cons_self).mp hin)
      rw [if_neg fun hplacements => absurd (hnil.mpr hplacements) (List.cons_ne_nil _ _), List.all_cons]
      simp [hunusable]

end Definition

end PlainSpec
