import PlainSpec.Definition.Signature
import PlainSpec.Proofs.CapturedValues
import PlainSpec.Proofs.KeptPatterns
import PlainSpec.Proofs.MatchableDefinitions

/-!
# Matching that cannot be broken

A step is matched against the definitions of its kind in turn, so a definition whose patterns cannot be made
ends the matching of all steps that the definitions before it do not read. With the customary catalog, this
happens for one reason only: the name that is made up for the capture of one parameter is the name of another.

## Main results

* `Registry.Registered.spec`: what holds of all definitions that have been registered.
* `bindAmong_eq_error_iff`: how looking for a definition fails.
* `Registry.Registered.safe_unless_clashing`: matching fails where names clash, and nowhere else.
-/

namespace PlainSpec

/-! ### Registered definitions -/

/-- What is true of a **registered definition**: its parameters have different names, the inline ones are served
if it is valid, and it keeps no other patterns than those that it makes. -/
structure Definition.Registered (d : Definition) : Prop where
  different : (d.parameters.map Parameter.name).Nodup
  served : d.isValid = true → ∀ p ∈ d.inlineParameters, Catalog.standard.handles p.type = true
  alike : Definition.Alike Catalog.standard { d with patterns := none } d

namespace Definition.Registered

variable {d e : Definition}

/-- The inline parameters have **different names**. -/
theorem different_inline (h : d.Registered) : (d.inlineParameters.map Parameter.name).Nodup :=
  h.different.sublist (List.filter_sublist.map _)

/-- The inline parameters of a valid definition **are served**. -/
theorem servedParameters (h : d.Registered) (hvalid : d.isValid = true) :
    ServedParameters d.inlineParameters :=
  ⟨h.served hvalid, h.different_inline⟩

/-- A definition that differs in **nothing but the patterns** that it keeps is a registered one, too. -/
theorem of_alike (h : d.Registered) (hde : Definition.Alike Catalog.standard d e) : e.Registered := by
  have hfresh : ({ e with patterns := none } : Definition) = { d with patterns := none } := by
    rw [← hde.fields]
  have halike : Definition.Alike Catalog.standard { e with patterns := none } e := by
    rw [hfresh]
    exact h.alike.trans hde
  obtain ⟨hdifferent, hserved, -⟩ := h
  rw [hde.isValid_eq] at hserved
  rw [← hde.fields] at halike hserved ⊢
  exact ⟨hdifferent, hserved, halike⟩

/-- Where no names clash, the patterns **can be made**, each for a placement. -/
theorem compile_of_not_clashing (h : d.Registered) (hvalid : d.isValid = true)
    (hclash : ¬Clashing d.inlineParameters) :
    ∃ patterns, d.compile Catalog.standard = .ok (patterns, { d with patterns := some patterns }) ∧
      (∀ pattern ∈ patterns, pattern.inner.isUsable = true) ∧
      ∀ pattern ∈ patterns, ∃ placement,
        IsPlacement ((Text.words d.phrase).map Text.lower) d.inlineParameters placement ∧
          pattern = namedPattern d.inlineParameters (Text.words d.phrase) placement := by
  have hserved := h.servedParameters hvalid
  have hnames := (chosenNames_nodup_iff h.different_inline).mpr hclash
  obtain ⟨patterns, hcompile, hplaced⟩ :=
    Definition.compile_of_different (d := { d with patterns := none }) hserved rfl hnames
  refine ⟨patterns, h.alike.compile.symm.trans hcompile, fun pattern hpattern => ?_, hplaced⟩
  obtain ⟨placement, hplacement, rfl⟩ := hplaced pattern hpattern
  exact (hserved.isUsable_iff hplacement).mpr hnames

/-- Where names clash, the patterns **cannot be made**, if there are any to be made. -/
theorem compile_of_clashing (h : d.Registered) (hvalid : d.isValid = true)
    (hclash : Clashing d.inlineParameters) :
    d.compile Catalog.standard =
      if placements ((Text.words d.phrase).map Text.lower) d.inlineParameters = [] then
        .ok ([], { d with patterns := some [] })
      else .error .unusablePattern := by
  have hnames : ¬(chosenNames d.inlineParameters).Nodup := fun hnodup =>
    (chosenNames_nodup_iff h.different_inline).mp hnodup hclash
  rw [← h.alike.compile]
  exact Definition.compile_of_clashing (d := { d with patterns := none }) (h.servedParameters hvalid) rfl hnames

end Definition.Registered

/-! ### Registries -/

/-- The registries that **registering gives**, with the customary catalog. Definitions are registered one after
the other, each with parameters under different names, from their parameters or from the signature of a function.
Steps may be bound in between. -/
inductive Registry.Registered : Registry → Prop
  | empty : Registered (Registry.empty Catalog.standard)
  | register {r r' : Registry} {d : Definition} {name : Text} {kind : Option StepKind}
      {parameters : List Parameter} {function : StepFunction} (h : Registered r)
      (hregister : r.register name kind parameters function = .ok (d, r'))
      (hdifferent : (d.parameters.map Parameter.name).Nodup) : Registered r'
  | registerFunction {r r' : Registry} {d : Definition} {scope : TypeScope} {f : FunctionItem}
      {kind : Option StepKind} {name : Text} (h : Registered r)
      (hregister : r.registerFunction scope f kind name = .ok (d, r'))
      (hdifferent : (d.parameters.map Parameter.name).Nodup) : Registered r'
  | bind {r : Registry} (h : Registered r) (step : Step) : Registered (r.bind step).2

namespace Registry

variable {r r' : Registry} {d : Definition}

/-- Registering a function is **registering its parameters**. -/
theorem exists_register_of_registerFunction {scope : TypeScope} {f : FunctionItem} {kind : Option StepKind}
    {name : Text} (h : r.registerFunction scope f kind name = .ok (d, r')) :
    ∃ name kind parameters function, r.register name kind parameters function = .ok (d, r') := by
  simp only [registerFunction] at h
  split at h
  · exact ⟨_, _, _, _, h⟩
  · exact absurd h (by simp)

/-- Registering **leaves the catalog** alone. -/
theorem catalog_of_register {name : Text} {kind : Option StepKind} {parameters : List Parameter}
    {function : StepFunction} (h : r.register name kind parameters function = .ok (d, r')) :
    r'.catalog = r.catalog := by
  simp only [register] at h
  split at h
  · exact absurd h (by simp)
  · obtain ⟨-, rfl⟩ := Prod.mk.inj (Except.ok.inj h)
    rfl

/-- What is true of a registry **with the customary catalog** of which all definitions are registered ones. -/
structure Sound (r : Registry) : Prop where
  catalog : r.catalog = Catalog.standard
  definitions : ∀ d ∈ r.definitions, d.Registered

/-- **Registering** keeps a registry sound. -/
theorem Sound.register (h : r.Sound) {name : Text} {kind : Option StepKind} {parameters : List Parameter}
    {function : StepFunction} (hregister : r.register name kind parameters function = .ok (d, r'))
    (hdifferent : (d.parameters.map Parameter.name).Nodup) : r'.Sound := by
  obtain ⟨hdefinitions, hpatterns, hserved⟩ := register_spec hregister
  rw [h.catalog] at hserved
  have hfresh : ({ d with patterns := none } : Definition) = d := by rw [← hpatterns]
  have halike : Definition.Alike Catalog.standard { d with patterns := none } d := by
    rw [hfresh]
    exact .refl _ d
  refine ⟨(catalog_of_register hregister).trans h.catalog, ?_⟩
  rw [hdefinitions, List.forall_mem_append]
  exact ⟨h.definitions, List.forall_mem_singleton.mpr ⟨hdifferent, hserved.mp, halike⟩⟩

/-- Definitions that match like registered ones, one by one, are **registered ones**. -/
theorem forall_registered_of_alike {ds es : List Definition} (hds : ∀ d ∈ ds, d.Registered)
    (h : List.Forall₂ (Definition.Alike Catalog.standard) ds es) : ∀ e ∈ es, e.Registered := by
  induction h with
  | nil => exact hds
  | cons hde _ ih =>
      obtain ⟨hd, hrest⟩ := List.forall_mem_cons.mp hds
      exact List.forall_mem_cons.mpr ⟨hd.of_alike hde, ih hrest⟩

/-- **Binding a step** keeps a registry sound. -/
theorem Sound.bind (h : r.Sound) (step : Step) : (r.bind step).2.Sound := by
  have halike := r.bind_alike step
  refine ⟨halike.catalog.symm.trans h.catalog, ?_⟩
  have hdefinitions := halike.definitions
  rw [h.catalog] at hdefinitions
  exact forall_registered_of_alike h.definitions hdefinitions

/-- **A registry of registered definitions is sound**, after any number of steps. -/
theorem Registered.sound (h : r.Registered) : r.Sound := by
  induction h with
  | empty => exact ⟨rfl, fun d hd => absurd hd List.not_mem_nil⟩
  | register _ hregister hdifferent ih => exact ih.register hregister hdifferent
  | registerFunction _ hregister hdifferent ih =>
      obtain ⟨_, _, _, _, hregister⟩ := exists_register_of_registerFunction hregister
      exact ih.register hregister hdifferent
  | bind _ step ih => exact ih.bind step

end Registry

/-! ### Looking for a definition -/

/-- What **looking at one definition** gives: the arguments that it reads from a text, if it reads it. -/
def Definition.reading (catalog : Catalog) (kind : StepKind) (body : Text) (d : Definition) :
    Except Failure (Option (Definition × Entries Value)) :=
  if d.kind = kind && d.isValid then
    match d.compile catalog with
    | .error failure => .error failure
    | .ok (patterns, e) => (e.read catalog body patterns).map (·.map fun arguments => (e, arguments))
  else .ok none

/-- A property of the **first element without another property**, of a list that is not empty. -/
theorem exists_split_cons_iff {α : Type} {P Q : α → Prop} {a : α} {l : List α} :
    (∃ before b after, a :: l = before ++ b :: after ∧ (∀ c ∈ before, P c) ∧ Q b) ↔
      Q a ∨ P a ∧ ∃ before b after, l = before ++ b :: after ∧ (∀ c ∈ before, P c) ∧ Q b := by
  constructor
  · rintro ⟨before, b, after, heq, hbefore, hb⟩
    cases before with
    | nil =>
        obtain ⟨rfl, -⟩ := List.cons.inj heq
        exact .inl hb
    | cons c before =>
        obtain ⟨rfl, rfl⟩ := List.cons.inj heq
        obtain ⟨ha, hbefore⟩ := List.forall_mem_cons.mp hbefore
        exact .inr ⟨ha, before, b, after, rfl, hbefore, hb⟩
  · rintro (ha | ⟨ha, before, b, after, rfl, hbefore, hb⟩)
    · exact ⟨[], a, l, rfl, by simp, ha⟩
    · exact ⟨a :: before, b, after, rfl, List.forall_mem_cons.mpr ⟨ha, hbefore⟩, hb⟩

section

variable {catalog : Catalog} {kind : StepKind} {body : Text}

/-- What looking at the **first definition** gives decides whether to go on. -/
theorem bindAmong_cons (position : Nat) (d : Definition) (rest : List Definition) :
    (bindAmong catalog kind body position (d :: rest)).1 =
      match d.reading catalog kind body with
      | .error failure => .error failure
      | .ok (some (e, arguments)) => .ok (some ⟨position, e, arguments⟩)
      | .ok none => (bindAmong catalog kind body (position + 1) rest).1 := by
  rw [bindAmong, Definition.reading]
  split
  · rcases d.compile catalog with failure | ⟨patterns, e⟩
    · rfl
    · simp only
      rcases e.read catalog body patterns with failure | _ | arguments <;> rfl
  · rfl

/-- **How looking for a definition fails**: it fails at one of them, and none before it reads the text. -/
theorem bindAmong_eq_error_iff {failure : Failure} {ds : List Definition} {position : Nat} :
    (bindAmong catalog kind body position ds).1 = .error failure ↔
      ∃ before d after, ds = before ++ d :: after ∧ (∀ b ∈ before, b.reading catalog kind body = .ok none) ∧
        d.reading catalog kind body = .error failure := by
  induction ds generalizing position with
  | nil => simp [bindAmong]
  | cons d rest ih =>
      rw [bindAmong_cons, exists_split_cons_iff]
      rcases d.reading catalog kind body with cause | _ | ⟨e, arguments⟩
      · simp
      · simp [ih]
      · simp

end

namespace Definition.Registered

variable {d : Definition} {kind : StepKind} {body : Text} {failure : Failure}

/-- **Where names clash**, looking at a definition of the kind fails, if its parameters can be placed. -/
theorem reading_of_clashing (h : d.Registered) (hkind : d.kind = kind) (hvalid : d.isValid = true)
    (hclash : Clashing d.inlineParameters)
    (hplacement : ∃ placement, IsPlacement ((Text.words d.phrase).map Text.lower) d.inlineParameters placement) :
    d.reading Catalog.standard kind body = .error .unusablePattern := by
  have hplacements : placements ((Text.words d.phrase).map Text.lower) d.inlineParameters ≠ [] := by
    obtain ⟨placement, hplacement⟩ := hplacement
    exact List.ne_nil_of_mem (mem_placements_iff.mpr hplacement)
  have hcompile := h.compile_of_clashing hvalid hclash
  rw [if_neg hplacements] at hcompile
  simp [reading, hkind, hvalid, hcompile]

/-- **How looking at a definition fails**: it is a valid one of the kind, its names clash, and so the pattern to be
made cannot be used. -/
theorem reading_error (h : d.Registered) (herror : d.reading Catalog.standard kind body = .error failure) :
    failure = .unusablePattern ∧ d.kind = kind ∧ d.isValid = true ∧ Clashing d.inlineParameters ∧
      ∃ placement, IsPlacement ((Text.words d.phrase).map Text.lower) d.inlineParameters placement := by
  unfold reading at herror
  split at herror
  · next hchosen =>
    rw [Bool.and_eq_true, decide_eq_true_eq] at hchosen
    obtain ⟨hkind, hvalid⟩ := hchosen
    by_cases hclash : Clashing d.inlineParameters
    · have hcompile := h.compile_of_clashing hvalid hclash
      split at hcompile
      · rw [hcompile] at herror
        exact absurd herror (by simp [read, Except.map])
      · next hplacements =>
        rw [hcompile] at herror
        obtain ⟨placement, hplacement⟩ := List.exists_mem_of_ne_nil _ hplacements
        exact ⟨(Except.error.inj herror).symm, hkind, hvalid, hclash, placement, mem_placements_iff.mp hplacement⟩
    · obtain ⟨patterns, hcompile, -, hplaced⟩ := h.compile_of_not_clashing hvalid hclash
      rw [hcompile] at herror
      have hnames := (chosenNames_nodup_iff h.different_inline).mpr hclash
      obtain ⟨found, hread⟩ := exists_read (d := { d with patterns := some patterns })
        (h.servedParameters hvalid) hnames hplaced body
      simp only [hread] at herror
      exact absurd herror (by simp [Except.map])
  · exact absurd herror (by simp)

end Definition.Registered

/-! ### Binding steps -/

namespace Registry

/-- A definition **stands in the way** of a step: it is a valid one of the step's kind, its names clash, it has a
pattern to be made, and no definition before it reads the step. -/
def Obstructed (r : Registry) (step : Step) : Prop :=
  ∃ before d after, r.definitions = before ++ d :: after ∧
    (∀ b ∈ before, b.reading r.catalog step.kind step.body = .ok none) ∧
    d.kind = step.kind ∧ d.isValid = true ∧ Clashing d.inlineParameters ∧
    ∃ placement, IsPlacement ((Text.words d.phrase).map Text.lower) d.inlineParameters placement

/-- A step that is not bound **fails in a definition**. -/
theorem bind_eq_error_iff {r : Registry} {step : Step} {failure : Failure} :
    (r.bind step).1 = .error failure ↔
      ∃ before d after, r.definitions = before ++ d :: after ∧
        (∀ b ∈ before, b.reading r.catalog step.kind step.body = .ok none) ∧
        d.reading r.catalog step.kind step.body = .error failure := by
  have hbind : (r.bind step).1 = .error failure ↔
      (bindAmong r.catalog step.kind step.body 0 r.definitions).1 = .error failure := by
    simp only [bind]
    rcases (bindAmong r.catalog step.kind step.body 0 r.definitions).1 with cause | found <;> simp [Except.map]
  rw [hbind, bindAmong_eq_error_iff]

/-- **What breaks matching.** Register definitions with the customary catalog, each with parameters under different
names of any kind. The names that are chosen for the captures of a definition are different unless names clash: the
name made up for one parameter is the name of another. Where no names clash, all patterns of a valid definition can
be made and used. Then every step has a finding, be it that nothing is bound, unless a definition with clashing names
stands in its way, which fails because a pattern cannot be used. -/
theorem Registered.safe_unless_clashing {r : Registry} (h : r.Registered) :
    (∀ d ∈ r.definitions, ((chosenNames d.inlineParameters).Nodup ↔ ¬Clashing d.inlineParameters) ∧
      (d.isValid = true → ¬Clashing d.inlineParameters →
        ∃ patterns, d.compile r.catalog = .ok (patterns, { d with patterns := some patterns }) ∧
          ∀ pattern ∈ patterns, pattern.inner.isUsable = true)) ∧
      ∀ step, ((r.bind step).1 = .error .unusablePattern ↔ r.Obstructed step) ∧
        ((∃ finding, (r.bind step).1 = .ok finding) ∨ r.Obstructed step) := by
  obtain ⟨hcatalog, hdefinitions⟩ := h.sound
  have hobstructed : ∀ step, (r.bind step).1 = .error .unusablePattern ↔ r.Obstructed step := by
    intro step
    rw [bind_eq_error_iff, Obstructed, hcatalog]
    constructor
    · rintro ⟨before, d, after, hsplit, hbefore, hfails⟩
      have hd := hdefinitions d (hsplit ▸ List.mem_append_right _ List.mem_cons_self)
      exact ⟨before, d, after, hsplit, hbefore, (hd.reading_error hfails).2⟩
    · rintro ⟨before, d, after, hsplit, hbefore, hkind, hvalid, hclash, hplacement⟩
      have hd := hdefinitions d (hsplit ▸ List.mem_append_right _ List.mem_cons_self)
      exact ⟨before, d, after, hsplit, hbefore, hd.reading_of_clashing hkind hvalid hclash hplacement⟩
  refine ⟨fun d hd => ⟨chosenNames_nodup_iff (hdefinitions d hd).different_inline, fun hvalid hclash => ?_⟩,
    fun step => ⟨hobstructed step, ?_⟩⟩
  · obtain ⟨patterns, hcompile, husable, -⟩ := (hdefinitions d hd).compile_of_not_clashing hvalid hclash
    exact ⟨patterns, hcatalog ▸ hcompile, husable⟩
  · cases hbind : (r.bind step).1 with
    | ok finding => exact .inl ⟨finding, rfl⟩
    | error failure =>
        obtain ⟨before, d, after, hsplit, -, hfails⟩ := bind_eq_error_iff.mp hbind
        have hmem : d ∈ r.definitions := hsplit ▸ List.mem_append_right _ List.mem_cons_self
        rw [hcatalog] at hfails
        obtain ⟨rfl, -⟩ := (hdefinitions d hmem).reading_error hfails
        exact .inr ((hobstructed step).mp hbind)

/-- A name that is **an identifier**, and one that is made of two words. -/
def addends : List Parameter := [⟨"arg1", some .int, false⟩, ⟨"a b", some .int, false⟩]

/-- A definition with some parameters, and then one **without any**. -/
def sumAndHello (parameters : List Parameter) : Registry :=
  ⟨Catalog.standard, [⟨"given_sum", .context, parameters, ⟨"sum", false, fun _ _ => none⟩, none, none⟩,
    ⟨"given_hello", .context, [], ⟨"hello", false, fun _ _ => none⟩, none, none⟩], []⟩

/-- A step for the **second definition**. -/
def helloStep : Step := ⟨.context, "Given hello", "Given", none⟩

/-- Both definitions **can be registered**. -/
theorem registered_sumAndHello {parameters : List Parameter}
    (hdifferent : (parameters.map Parameter.name).Nodup)
    (hserved : (parameters.filter (!·.isBlock)).find? (fun p => !Catalog.standard.handles p.type) = none) :
    (sumAndHello parameters).Registered := by
  have hsum : (Registry.empty Catalog.standard).register "given_sum" none parameters ⟨"sum", false, fun _ _ => none⟩ =
      .ok (⟨"given_sum", .context, parameters, ⟨"sum", false, fun _ _ => none⟩, none, none⟩,
        ⟨Catalog.standard, [⟨"given_sum", .context, parameters, ⟨"sum", false, fun _ _ => none⟩, none, none⟩],
          []⟩) := by
    simp only [register, Registry.empty, hserved]
    rfl
  have hhello : register ⟨Catalog.standard,
        [⟨"given_sum", .context, parameters, ⟨"sum", false, fun _ _ => none⟩, none, none⟩], []⟩ "given_hello" none []
        ⟨"hello", false, fun _ _ => none⟩ =
      .ok (⟨"given_hello", .context, [], ⟨"hello", false, fun _ _ => none⟩, none, none⟩, sumAndHello parameters) := rfl
  exact .register (.register .empty hsum hdifferent) hhello List.nodup_nil

/-- If the name of two words comes first, then **another name** is made up for it. -/
theorem Registered.safe_unless_clashing_sum :
    (sumAndHello addends.reverse).Registered ∧
      (∀ d ∈ (sumAndHello addends.reverse).definitions, ¬Clashing d.inlineParameters) ∧
      ∃ finding, ((sumAndHello addends.reverse).bind helloStep).1 = .ok finding := by
  have hregistered : (sumAndHello addends.reverse).Registered :=
    registered_sumAndHello (by decide) (by decide)
  obtain ⟨hnames, hsteps⟩ := hregistered.safe_unless_clashing
  have hnodup : ∀ d ∈ (sumAndHello addends.reverse).definitions, (chosenNames d.inlineParameters).Nodup := by
    decide +kernel
  have hclash : ∀ d ∈ (sumAndHello addends.reverse).definitions, ¬Clashing d.inlineParameters :=
    fun d hd => (hnames d hd).1.mp (hnodup d hd)
  refine ⟨hregistered, hclash, ?_⟩
  rcases (hsteps helloStep).2 with hfound | ⟨before, d, after, hsplit, -, -, -, hfails, -⟩
  · exact hfound
  · exact absurd hfails (hclash d (hsplit ▸ List.mem_append_right _ List.mem_cons_self))

/-- If it comes second, then the name that is made up for it **is taken**, and a step for another definition cannot
be matched, which can be matched without the first definition. -/
theorem unsafe_sum :
    (sumAndHello addends).Registered ∧
      (∃ d ∈ (sumAndHello addends).definitions, ¬(chosenNames d.inlineParameters).Nodup) ∧
      (∀ finding, ((sumAndHello addends).bind helloStep).1 ≠ .ok finding) ∧
      ∃ binding, (bind ⟨Catalog.standard, (sumAndHello addends).definitions.drop 1, []⟩ helloStep).1 =
        .ok (.bound binding) := by
  have hregistered : (sumAndHello addends).Registered := registered_sumAndHello (by decide) (by decide)
  have hnames : ∃ d ∈ (sumAndHello addends).definitions, ¬(chosenNames d.inlineParameters).Nodup := by
    decide +kernel
  refine ⟨hregistered, hnames, fun finding hfinding => ?_, ⟨0, _, _⟩, rfl⟩
  have hfails : ((sumAndHello addends).bind helloStep).1 = .error .unusablePattern := rfl
  rw [hfails] at hfinding
  exact absurd hfinding (by simp)

end Registry

end PlainSpec
