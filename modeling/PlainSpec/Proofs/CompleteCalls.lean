import PlainSpec.Proofs.FirstMatch
import PlainSpec.Proofs.MadePatterns
import PlainSpec.Verification.Runner

/-!
# Complete calls

The function of a definition is called with the arguments that stand in the line of a step and with the block of the
step. This module shows that nothing is missing from such a call: whatever a line leaves out has a default, and a
block comes in the shape that the parameter asks for, or else the function is not called.

## Main results

* `Parameter.adapt_eq_ok_iff`: in which shape a parameter takes a block.
* `Definition.exists_blockArguments`, `Definition.lookup_blockArguments`: the arguments with the block added.
* `Definition.completeCall_of_blockArguments`: the call with these arguments is complete.
* `Registry.invoke_complete`: what is called for a step that is bound.
-/

namespace PlainSpec

/-! ### Names of parameters -/

/-- Reading an annotation **leaves the name** of a parameter. -/
theorem SignatureParameter.name_of_resolve {scope : TypeScope} {p q : SignatureParameter}
    (h : p.resolve scope = .ok q) : q.name = p.name := by
  simp only [resolve] at h
  split at h
  · rw [Except.ok.inj h]
  · rw [← Except.ok.inj h]
  · next t _ =>
    rcases hread : t.resolve scope with fault | u <;> rw [hread] at h
    · exact absurd h (by simp [Except.map])
    · rw [← Except.ok.inj h]

/-- The parameters that are read off a signature are **some of its parameters**, in order. -/
theorem FunctionItem.sublist_of_stepParameters {scope : TypeScope} {f : FunctionItem} {parameters : List Parameter}
    (h : f.stepParameters scope = .ok parameters) :
    (parameters.map Parameter.name).Sublist (f.parameters.map SignatureParameter.name) := by
  have htaken : ∀ signature : List SignatureParameter,
      ((takenParameters signature).map Parameter.name).Sublist (signature.map SignatureParameter.name) := by
    intro signature
    rw [takenParameters, List.map_map]
    exact (List.filter_sublist (l := signature)).map SignatureParameter.name
  simp only [stepParameters] at h
  split at h
  · next signature hsignature =>
    obtain rfl := Except.ok.inj h
    have hnames : f.parameters.map SignatureParameter.name = signature.map SignatureParameter.name := by
      rw [← List.forall₂_eq_eq_eq, List.forall₂_map_left_iff, List.forall₂_map_right_iff]
      exact (forall₂_of_mapM hsignature).imp fun _ _ h => (SignatureParameter.name_of_resolve h).symm
    exact hnames ▸ htaken signature
  · obtain rfl := Except.ok.inj h
    exact htaken f.parameters
  · exact absurd h (by simp)

/-- A definition is registered **with its parameters** and its function. -/
theorem Registry.parameters_of_register {r r' : Registry} {name : Text} {kind : Option StepKind}
    {parameters : List Parameter} {function : StepFunction} {d : Definition}
    (h : r.register name kind parameters function = .ok (d, r')) :
    d.parameters = parameters ∧ d.function = function := by
  simp only [register] at h
  split at h
  · exact absurd h (by simp)
  · obtain ⟨rfl, -⟩ := Prod.mk.inj (Except.ok.inj h)
    exact ⟨rfl, rfl⟩

/-- A definition is **read from a function**: it is what registering the function gives, apart from the patterns that
it keeps. -/
def Definition.ReadFrom (scope : TypeScope) (f : FunctionItem) (d : Definition) : Prop :=
  ∃ (r r' : Registry) (kind : Option StepKind) (name : Text) (e : Definition),
    r.registerFunction scope f kind name = .ok (e, r') ∧ { e with patterns := d.patterns } = d

/-- Its **parameters** are those of the signature, and its calls are those of the function. -/
theorem Definition.ReadFrom.parameters {scope : TypeScope} {f : FunctionItem} {d : Definition}
    (h : d.ReadFrom scope f) : f.stepParameters scope = .ok d.parameters ∧ d.function = f.stepFunction := by
  obtain ⟨r, r', kind, name, e, hregister, hfields⟩ := h
  rw [← hfields]
  simp only [Registry.registerFunction] at hregister
  split at hregister
  · next parameters hparameters =>
    obtain ⟨rfl, hfunction⟩ := Registry.parameters_of_register hregister
    exact ⟨hparameters, hfunction⟩
  · exact absurd hregister (by simp)

/-! ### Blocks as arguments -/

/-- Whether a type asks for a **form**, as it is or as a record. -/
def ParamType.isForm : ParamType → Bool
  | form | record | recordOf _ _ => true
  | _ => false

/-- Whether a type asks for a **grid**, as it is or as records. -/
def ParamType.isGrid : ParamType → Bool
  | grid | records | listOf _ => true
  | _ => false

namespace Parameter

/-- A parameter **refuses** a block that is of the other kind than its type asks for. -/
def Refuses (p : Parameter) (block : Block) : Prop :=
  ∃ type, p.type = some type ∧
    match block with
    | .form _ => type.unwrapOptional.1.isGrid = true
    | .grid _ => type.unwrapOptional.1.isForm = true

/-- **A block in the shape** that a parameter asks for: a form as it is or as a record, a grid as it is or as records,
or the block whatever it is. -/
inductive Shaped (p : Parameter) : Block → Value → Prop
  | untyped (block : Block) (htype : p.type = none) : Shaped p block (.block block)
  | block (block : Block) {type : ParamType} (htype : p.type = some type)
      (hinner : type.unwrapOptional.1 = .block) : Shaped p block (.block block)
  | form (f : Form) {type : ParamType} (htype : p.type = some type) (hinner : type.unwrapOptional.1 = .form) :
      Shaped p (.form f) (.block (.form f))
  | grid (g : Grid) {type : ParamType} (htype : p.type = some type) (hinner : type.unwrapOptional.1 = .grid) :
      Shaped p (.grid g) (.block (.grid g))
  | record (f : Form) {type : ParamType} (htype : p.type = some type)
      (hinner : type.unwrapOptional.1 = .record ∨ ∃ key value, type.unwrapOptional.1 = .recordOf key value) :
      Shaped p (.form f) (.record f.toRecord)
  | records (g : Grid) {type : ParamType} (htype : p.type = some type)
      (hinner : type.unwrapOptional.1 = .records ∨ ∃ item, type.unwrapOptional.1 = .listOf item) :
      Shaped p (.grid g) (.records g.toRecords)

variable {p : Parameter} {block : Block} {value : Value}

/-- A block in the shape that a parameter asks for **is its argument**. -/
theorem Shaped.adapt_eq (h : p.Shaped block value) : p.adapt (some block) = .ok value := by
  cases h with
  | untyped _ htype => simp [adapt, htype]
  | block _ htype hinner => simp [adapt, adaptBlock, htype, hinner]
  | form _ htype hinner => simp [adapt, adaptBlock, htype, hinner]
  | grid _ htype hinner => simp [adapt, adaptBlock, htype, hinner]
  | record _ htype hinner =>
      rcases hinner with hinner | ⟨key, value, hinner⟩ <;> simp [adapt, adaptBlock, htype, hinner]
  | records _ htype hinner =>
      rcases hinner with hinner | ⟨item, hinner⟩ <;> simp [adapt, adaptBlock, htype, hinner]

/-- A block that is refused **is no argument**. -/
theorem Refuses.exists_adapt_eq (h : p.Refuses block) : ∃ complaint, p.adapt (some block) = .error complaint := by
  obtain ⟨type, htype, hrefuses⟩ := h
  cases block with
  | form f =>
      cases hinner : type.unwrapOptional.1 <;> simp [hinner, ParamType.isGrid] at hrefuses <;>
        simp [adapt, adaptBlock, htype, hinner]
  | grid g =>
      cases hinner : type.unwrapOptional.1 <;> simp [hinner, ParamType.isForm] at hrefuses <;>
        simp [adapt, adaptBlock, htype, hinner]

/-- A parameter for blocks has a shape for every block **that it does not refuse**. -/
theorem exists_shaped_or_refuses (hp : p.isBlock = true) (block : Block) :
    (∃ value, p.Shaped block value) ∨ p.Refuses block := by
  rcases htype : p.type with _ | type
  · exact .inl ⟨_, .untyped block htype⟩
  · simp only [isBlock, htype, ParamType.takesBlock] at hp
    cases hinner : type.unwrapOptional.1 with
    | block => exact .inl ⟨_, .block block htype hinner⟩
    | form =>
        cases block with
        | form f => exact .inl ⟨_, .form f htype hinner⟩
        | grid g => exact .inr ⟨type, htype, by simp [hinner, ParamType.isForm]⟩
    | record =>
        cases block with
        | form f => exact .inl ⟨_, .record f htype (.inl hinner)⟩
        | grid g => exact .inr ⟨type, htype, by simp [hinner, ParamType.isForm]⟩
    | recordOf key item =>
        cases block with
        | form f => exact .inl ⟨_, .record f htype (.inr ⟨key, item, hinner⟩)⟩
        | grid g => exact .inr ⟨type, htype, by simp [hinner, ParamType.isForm]⟩
    | grid =>
        cases block with
        | form f => exact .inr ⟨type, htype, by simp [hinner, ParamType.isGrid]⟩
        | grid g => exact .inl ⟨_, .grid g htype hinner⟩
    | records =>
        cases block with
        | form f => exact .inr ⟨type, htype, by simp [hinner, ParamType.isGrid]⟩
        | grid g => exact .inl ⟨_, .records g htype (.inl hinner)⟩
    | listOf item =>
        cases block with
        | form f => exact .inr ⟨type, htype, by simp [hinner, ParamType.isGrid]⟩
        | grid g => exact .inl ⟨_, .records g htype (.inr ⟨item, hinner⟩)⟩
    | _ =>
        rw [hinner] at hp
        exact absurd hp (by simp)

/-- A parameter for blocks **takes a block** in the shape that it asks for. -/
theorem adapt_eq_ok_iff (hp : p.isBlock = true) : p.adapt (some block) = .ok value ↔ p.Shaped block value := by
  refine ⟨fun h => ?_, Shaped.adapt_eq⟩
  rcases exists_shaped_or_refuses hp block with ⟨other, hshaped⟩ | hrefuses
  · obtain rfl := Except.ok.inj (h.symm.trans hshaped.adapt_eq)
    exact hshaped
  · obtain ⟨complaint, hcomplaint⟩ := hrefuses.exists_adapt_eq
    exact absurd (h.symm.trans hcomplaint) (by simp)

end Parameter

/-! ### Arguments with the block -/

namespace Definition

variable {block : Option Block} {ps : List Parameter} {arguments keywords : Entries Value}

/-- The block **can be added** to arguments if no parameter refuses it. -/
theorem exists_blockArguments (hps : ∀ p ∈ ps, p.isBlock = true)
    (h : ∀ p ∈ ps, ∀ b ∈ block, ¬p.Refuses b) (arguments : Entries Value) :
    ∃ keywords, blockArguments block arguments ps = .ok keywords := by
  induction ps generalizing arguments with
  | nil => exact ⟨arguments, rfl⟩
  | cons p rest ih =>
      obtain ⟨hp, hps⟩ := List.forall_mem_cons.mp hps
      obtain ⟨hblock, h⟩ := List.forall_mem_cons.mp h
      rw [blockArguments]
      split
      · exact ih hps h arguments
      · have hadapt : ∃ value, p.adapt block = .ok value := by
          cases block with
          | none => exact ⟨.nothing, rfl⟩
          | some b =>
              obtain ⟨value, hshaped⟩ :=
                (Parameter.exists_shaped_or_refuses hp b).resolve_right (hblock b rfl)
              exact ⟨value, hshaped.adapt_eq⟩
        obtain ⟨value, hvalue⟩ := hadapt
        rw [hvalue]
        exact ih hps h _

/-- A block that a parameter refuses **cannot be added**. -/
theorem blockArguments_of_refuses {b : Block} {p : Parameter} (hp : p ∈ ps) (hrefuses : p.Refuses b)
    (arguments : Entries Value) : ∃ complaint, blockArguments (some b) arguments ps = .error complaint := by
  induction ps generalizing arguments with
  | nil => exact absurd hp List.not_mem_nil
  | cons first rest ih =>
      simp only [blockArguments, Option.isNone_some, Bool.false_and, Bool.false_eq_true, if_false]
      rcases hfirst : first.adapt (some b) with complaint | value
      · exact ⟨complaint, rfl⟩
      · rcases List.mem_cons.mp hp with rfl | hp
        · obtain ⟨complaint, hcomplaint⟩ := hrefuses.exists_adapt_eq
          exact absurd (hfirst.symm.trans hcomplaint) (by simp)
        · exact ih hp _

/-- The arguments with the block added: every parameter that **takes the block** has it, unless there is none and the
parameter has a default, and nothing else is changed. -/
theorem lookup_blockArguments (hdifferent : (ps.map Parameter.name).Nodup)
    (h : blockArguments block arguments ps = .ok keywords) :
    (∀ p ∈ ps, if block = none ∧ p.hasDefault = true then keywords.lookup p.name = arguments.lookup p.name
        else ∃ value, p.adapt block = .ok value ∧ keywords.lookup p.name = some value) ∧
      ∀ name, name ∉ ps.map Parameter.name → keywords.lookup name = arguments.lookup name := by
  induction ps generalizing arguments with
  | nil =>
      obtain rfl := Except.ok.inj h
      exact ⟨fun p hp => absurd hp List.not_mem_nil, fun _ _ => rfl⟩
  | cons p rest ih =>
      rw [List.map_cons, List.nodup_cons] at hdifferent
      obtain ⟨hnew, hdifferent⟩ := hdifferent
      rw [blockArguments] at h
      split at h
      · next hleft =>
        rw [Bool.and_eq_true, Option.isNone_iff_eq_none] at hleft
        obtain ⟨hrest, hothers⟩ := ih hdifferent h
        refine ⟨List.forall_mem_cons.mpr ⟨?_, hrest⟩, fun name hname => hothers name fun hmem =>
          hname (List.mem_cons_of_mem _ hmem)⟩
        rw [if_pos hleft]
        exact hothers p.name hnew
      · next hleft =>
        rw [Bool.and_eq_true, Option.isNone_iff_eq_none] at hleft
        split at h
        · next value hvalue =>
          obtain ⟨hrest, hothers⟩ := ih hdifferent h
          have hput : ∀ name, name ≠ p.name → (Entries.put p.name value arguments).lookup name =
              arguments.lookup name := by
            intro name hne
            rw [Entries.lookup_put, if_neg (by simpa using hne)]
          refine ⟨List.forall_mem_cons.mpr ⟨?_, fun q hq => ?_⟩, fun name hname => ?_⟩
          · rw [if_neg hleft]
            refine ⟨value, hvalue, ?_⟩
            rw [hothers p.name hnew, Entries.lookup_put, if_pos (by simp)]
          · have hne : q.name ≠ p.name := fun heq => hnew (heq ▸ List.mem_map_of_mem hq)
            rw [← hput q.name hne]
            exact hrest q hq
          · rw [List.map_cons, List.mem_cons, not_or] at hname
            rw [hothers name hname.2, hput name hname.1]
        · exact absurd h (by simp)

/-- The arguments with the block added have **different names**. -/
theorem nodup_keys_blockArguments (hdifferent : (arguments.map Prod.fst).Nodup)
    (h : blockArguments block arguments ps = .ok keywords) : (keywords.map Prod.fst).Nodup := by
  induction ps generalizing arguments with
  | nil =>
      obtain rfl := Except.ok.inj h
      exact hdifferent
  | cons p rest ih =>
      rw [blockArguments] at h
      split at h
      · exact ih hdifferent h
      · split at h
        · exact ih (Entries.nodup_keys_put hdifferent) h
        · exact absurd h (by simp)

/-- **A complete call** of a definition: what is passed, by a line that was matched in some way and the block of the
step. No name appears twice, and none that is not a parameter's; every parameter without default is there. One in the
line is left out exactly if it has a default and was not captured, and what was captured has been converted. One that
takes the block is left out exactly if it has a default and there is no block; otherwise it is nothing if there is no
block, and else the block in the shape that it asks for. -/
structure CompleteCall (catalog : Catalog) (d : Definition) (way : Way) (block : Option Block)
    (keywords : Entries Value) : Prop where
  different : (keywords.map Prod.fst).Nodup
  known : ∀ keyword ∈ keywords, keyword.1 ∈ d.parameters.map Parameter.name
  required : ∀ p ∈ d.parameters, p.hasDefault = false → (keywords.lookup p.name).isSome = true
  leftOut : ∀ p ∈ d.inlineParameters, keywords.lookup p.name = none ↔
    p.hasDefault = true ∧ way.captured? (captureNameOf d.inlineParameters p) = none
  converted : ∀ p ∈ d.inlineParameters, ∀ t, way.captured? (captureNameOf d.inlineParameters p) = some t →
    ∃ value, keywords.lookup p.name = some value ∧ catalog.convert p.type (some t) = .ok value
  blockLeftOut : ∀ p ∈ d.blockParameters, keywords.lookup p.name = none ↔ p.hasDefault = true ∧ block = none
  shaped : ∀ p ∈ d.blockParameters, ∀ value, keywords.lookup p.name = some value →
    block = none ∧ value = .nothing ∨ ∃ b ∈ block, p.Shaped b value

variable {catalog : Catalog} {d : Definition} {way : Way}

/-- The arguments in a line stand under the names of **inline parameters**, each name once. -/
theorem names_of_arguments (h : d.arguments catalog way = .ok arguments) :
    (arguments.map Prod.fst).Nodup ∧
      ∀ name value, arguments.lookup name = some value → ∃ p ∈ d.inlineParameters, p.name = name := by
  rw [Definition.arguments] at h
  cases hfound : d.inlineParameters.mapM (d.argument catalog way) with
  | error failure => rw [hfound] at h; exact absurd h (by simp [Except.map])
  | ok found =>
      rw [hfound] at h
      obtain rfl := Except.ok.inj h
      refine ⟨Entries.nodup_keys_ofPairs _, fun name value hlookup => ?_⟩
      rw [Entries.lookup_ofPairs] at hlookup
      obtain ⟨before, after, hsplit, -⟩ := List.lookup_eq_some_iff.mp hlookup
      have hmem : (name, value) ∈ (found.filterMap id).reverse :=
        hsplit ▸ List.mem_append_right _ List.mem_cons_self
      obtain ⟨_, hpair, rfl⟩ := List.mem_filterMap.mp (List.mem_reverse.mp hmem)
      obtain ⟨p, hp, hargument⟩ := exists_of_mem_mapM hfound hpair
      exact ⟨p, hp, (name_of_argument hargument).symm⟩

/-- The parameters **in the line** and those that take the block make up all of them. -/
theorem mem_parameters_iff {p : Parameter} :
    p ∈ d.parameters ↔ p ∈ d.inlineParameters ∨ p ∈ d.blockParameters := by
  rw [inlineParameters, blockParameters, List.mem_filter, List.mem_filter]
  cases p.isBlock <;> simp

section

variable {p q : Parameter} (hdifferent : (d.parameters.map Parameter.name).Nodup)

include hdifferent

/-- No name stands for **both** a value in the line and the block. -/
theorem name_ne_name (hp : p ∈ d.inlineParameters) (hq : q ∈ d.blockParameters) : p.name ≠ q.name := by
  intro hname
  obtain rfl := List.inj_on_of_nodup_map hdifferent (mem_parameters_iff.mpr (.inl hp))
    (mem_parameters_iff.mpr (.inr hq)) hname
  have hinline := (List.mem_filter.mp hp).2
  rw [(List.mem_filter.mp hq).2] at hinline
  exact absurd hinline (by simp)

variable (harguments : d.arguments catalog way = .ok arguments)
  (h : blockArguments block arguments d.blockParameters = .ok keywords)

include harguments h

/-- What is passed **for a parameter in the line** is its argument. -/
theorem argument_eq_lookup (hp : p ∈ d.inlineParameters) :
    d.argument catalog way p = .ok ((keywords.lookup p.name).map (p.name, ·)) := by
  have hnames : ∀ p ∈ d.inlineParameters, ∀ q ∈ d.inlineParameters, p.name = q.name → p = q := fun p hp q hq =>
    List.inj_on_of_nodup_map hdifferent (mem_parameters_iff.mpr (.inl hp)) (mem_parameters_iff.mpr (.inl hq))
  have hother : p.name ∉ d.blockParameters.map Parameter.name := by
    intro hmem
    obtain ⟨q, hq, hname⟩ := List.mem_map.mp hmem
    exact name_ne_name hdifferent hp hq hname.symm
  rw [(lookup_blockArguments (hdifferent.sublist (List.filter_sublist.map _)) h).2 p.name hother]
  exact lookup_arguments hnames harguments hp

/-- What is passed **for a parameter that takes the block**: nothing at all if there is no block and it has a default,
and otherwise the block as it wants it. -/
theorem lookup_block (hp : p ∈ d.blockParameters) :
    if block = none ∧ p.hasDefault = true then keywords.lookup p.name = none
      else ∃ value, p.adapt block = .ok value ∧ keywords.lookup p.name = some value := by
  have htakes := (lookup_blockArguments (hdifferent.sublist (List.filter_sublist.map _)) h).1 p hp
  split at htakes
  · next hleft =>
    rw [if_pos hleft, htakes]
    by_contra hsome
    obtain ⟨value, hvalue⟩ := Option.ne_none_iff_exists'.mp hsome
    obtain ⟨q, hq, hname⟩ := (names_of_arguments harguments).2 p.name value hvalue
    exact name_ne_name hdifferent hq hp hname
  · next hleft => rwa [if_neg hleft]

/-- **A call is complete** if the parameters have different names. -/
theorem completeCall_of_blockArguments : d.CompleteCall catalog way block keywords := by
  obtain ⟨hdistinct, hknown⟩ := names_of_arguments harguments
  have hkeywords := nodup_keys_blockArguments hdistinct h
  have hleftOut : ∀ p ∈ d.inlineParameters, keywords.lookup p.name = none ↔
      p.hasDefault = true ∧ way.captured? (captureNameOf d.inlineParameters p) = none := by
    intro p hp
    rw [and_comm, ← argument_eq_none_iff, argument_eq_lookup hdifferent harguments h hp]
    cases keywords.lookup p.name <;> simp
  have hblockLeftOut : ∀ p ∈ d.blockParameters,
      keywords.lookup p.name = none ↔ p.hasDefault = true ∧ block = none := by
    intro p hp
    have htakes := lookup_block hdifferent harguments h hp
    rw [and_comm]
    split at htakes
    · next hleft => exact iff_of_true htakes hleft
    · next hleft =>
      obtain ⟨value, -, hvalue⟩ := htakes
      exact iff_of_false (by rw [hvalue]; simp) hleft
  refine ⟨hkeywords, ?_, ?_, hleftOut, ?_, hblockLeftOut, ?_⟩
  · rintro ⟨name, value⟩ hmem
    by_cases hname : name ∈ d.blockParameters.map Parameter.name
    · exact (List.filter_sublist.map Parameter.name).subset hname
    · have hlookup := Entries.lookup_of_mem hkeywords hmem
      rw [(lookup_blockArguments (hdifferent.sublist (List.filter_sublist.map _)) h).2 name hname] at hlookup
      obtain ⟨p, hp, rfl⟩ := hknown name value hlookup
      exact List.mem_map_of_mem (mem_parameters_iff.mpr (.inl hp))
  · intro p hp hrequired
    rw [Option.isSome_iff_ne_none, Ne]
    rcases mem_parameters_iff.mp hp with hp | hp
    · rw [hleftOut p hp]
      simp [hrequired]
    · rw [hblockLeftOut p hp]
      simp [hrequired]
  · exact fun p hp t hcaptured =>
      convert_of_captured (argument_eq_lookup hdifferent harguments h hp) hcaptured
  · intro p hp value hvalue
    have htakes := lookup_block hdifferent harguments h hp
    split at htakes
    · exact absurd (hvalue.symm.trans htakes) (by simp)
    · obtain ⟨other, hadapt, hother⟩ := htakes
      obtain rfl := Option.some.inj (hvalue.symm.trans hother)
      cases block with
      | none => exact .inl ⟨rfl, (Except.ok.inj hadapt).symm⟩
      | some b => exact .inr ⟨b, rfl, (Parameter.adapt_eq_ok_iff (List.mem_filter.mp hp).2).mp hadapt⟩

end

end Definition

/-! ### Calls -/

/-- **Every call is complete.** Take a definition that was read from a function whose parameters have different names,
and a step to which it is bound after any operations. The step is matched by one of the patterns of the definition,
whose mandatory captures all took part. If a parameter refuses the block of the step, then nothing is called, and what
is raised is the cause of the failure. Otherwise the function is called, and the call is complete. -/
theorem Registry.invoke_complete {catalog : Catalog} {ops : List Operation} {step : Step} {b : Binding}
    {scope : TypeScope} {f : FunctionItem} (runner : Runner)
    (hbind : (((empty catalog).run ops).bind step).1 = .ok (.bound b))
    (hread : b.definition.ReadFrom scope f)
    (hdifferent : (f.parameters.map SignatureParameter.name).Nodup) :
    ∃ pattern way, (∃ patterns, b.definition.patterns = some patterns ∧ pattern ∈ patterns) ∧
      pattern.match? step.body = some way ∧
      b.definition.arguments ((empty catalog).run ops).catalog way = .ok b.arguments ∧
      (∀ p ∈ b.definition.inlineParameters, p.hasDefault = false →
        (way.captured? (captureNameOf b.definition.inlineParameters p)).isSome = true) ∧
      ((∃ p ∈ b.definition.blockParameters, ∃ block ∈ step.block, p.Refuses block) →
        ∃ complaint, runner.invoke b step = (some ⟨"TypeError", some complaint⟩, runner)) ∧
      ((∀ p ∈ b.definition.blockParameters, ∀ block ∈ step.block, ¬p.Refuses block) →
        ∃ (keywords : Entries Value) (call : Call),
          Definition.blockArguments step.block b.arguments b.definition.blockParameters = .ok keywords ∧
          call = ⟨f.name, b.definition.parameters.map fun p => (p.name, keywords.lookup p.name)⟩ ∧
          runner.invoke b step = (f.raises runner.calls call, runner.noteCall (some call)) ∧
          b.definition.CompleteCall ((empty catalog).run ops).catalog way step.block keywords) := by
  obtain ⟨before, op, after, earlier, pattern, later, way, -, hmaking, -, hmatch, harguments⟩ :=
    exists_making_of_bound hbind
  obtain ⟨value, placement, hplaced⟩ := hmaking.makes.exists_placedBy (List.mem_append_right _ List.mem_cons_self)
  have hcaptured := fun p hp hrequired => hplaced.isSome_captured? (p := p) hp hrequired hmatch
  refine ⟨pattern, way, ⟨_, hmaking.kept, List.mem_append_right _ List.mem_cons_self⟩, hmatch, harguments, hcaptured,
    ?_, ?_⟩
  · rintro ⟨p, hp, block, hblock, hrefuses⟩
    obtain ⟨complaint, hcomplaint⟩ := Definition.blockArguments_of_refuses hp hrefuses b.arguments
    refine ⟨complaint, ?_⟩
    simp [Runner.invoke, Binding.invoke, Option.mem_def.mp hblock, hcomplaint, Runner.noteCall]
  · intro htakes
    have hblocks : ∀ p ∈ b.definition.blockParameters, p.isBlock = true := fun p hp => (List.mem_filter.mp hp).2
    obtain ⟨keywords, hkeywords⟩ := Definition.exists_blockArguments hblocks htakes b.arguments
    refine ⟨keywords, _, hkeywords, rfl, ?_, Definition.completeCall_of_blockArguments
      (hdifferent.sublist (FunctionItem.sublist_of_stepParameters hread.parameters.1)) harguments hkeywords⟩
    simp [Runner.invoke, Binding.invoke, hkeywords, Definition.callAfter, Definition.call, hread.parameters.2,
      FunctionItem.stepFunction]

namespace Registry

/-- A function that takes **a number and the block**, and a text that may be left out. -/
def payFunction : FunctionItem :=
  ⟨"given_total_count", [⟨"count", .type .int, false, false⟩, ⟨"note", .absent, true, false⟩,
    ⟨"fields", .type .record, false, false⟩], none, fun _ _ => none⟩

/-- A step that **leaves the text out**, with a form. -/
def payStep : Step := ⟨.context, "Given total 12", "Given", some (.form ⟨[("payer", "Ann")]⟩)⟩

/-- The function is **registered**. -/
def payOperations : List Operation := [.enter (.function TypeMeaning.known? payFunction none [])]

/-- The call passes **the number and the form** as a record, and no text. -/
theorem invoke_complete_pay :
    ∃ b, (((empty Catalog.standard).run payOperations).bind payStep).1 = .ok (.bound b) ∧
      b.definition.ReadFrom TypeMeaning.known? payFunction ∧
      (payFunction.parameters.map SignatureParameter.name).Nodup ∧
      ∃ way keywords, b.definition.CompleteCall Catalog.standard way payStep.block keywords ∧
        keywords.lookup "count".toList = some (.int 12) ∧ keywords.lookup "note".toList = none ∧
        keywords.lookup "fields".toList = some (.record [("payer", "Ann")]) := by
  have hdifferent : (payFunction.parameters.map SignatureParameter.name).Nodup := by decide
  obtain ⟨b, hbind, hread, hblocks, harguments⟩ :
      ∃ b, (((empty Catalog.standard).run payOperations).bind payStep).1 = .ok (.bound b) ∧
        b.definition.ReadFrom TypeMeaning.known? payFunction ∧
        b.definition.blockParameters = [⟨"fields", some .record, false⟩] ∧
        b.arguments = [("count".toList, Value.int 12)] :=
    ⟨⟨0, _, _⟩, rfl, ⟨empty Catalog.standard, _, none, [], _, rfl, rfl⟩, rfl, rfl⟩
  obtain ⟨_, way, -, -, -, -, -, hcalled⟩ :=
    invoke_complete (.start (empty []) none) hbind hread hdifferent
  have htakes : ∀ p ∈ b.definition.blockParameters, ∀ block ∈ payStep.block, ¬p.Refuses block := by
    rw [hblocks]
    simp [payStep, Parameter.Refuses, ParamType.unwrapOptional, ParamType.isGrid]
  obtain ⟨keywords, -, hkeywords, -, -, hcomplete⟩ := hcalled htakes
  rw [hblocks, harguments] at hkeywords
  obtain rfl := Except.ok.inj hkeywords
  exact ⟨b, hbind, hread, hdifferent, way, _, hcomplete, rfl, rfl, rfl⟩

end Registry

end PlainSpec
