import PlainSpec.Definition.Files
import PlainSpec.Proofs.Paths
import PlainSpec.Proofs.SafeMatching

/-!
# Registrations

Definitions come into a registry in five ways: from their parameters, from a function, from the names of a module,
from the methods of an object, and from a file or the files of a folder. Each of them may fail, some of them half
way through. This module shows that all of them only append definitions, and which ones are appended where one of
them fails: registering a single definition that fails changes nothing, but what a module, an object or a folder has
registered before it fails stays. The definitions that carry a fault are noted in a second list, which keeps in step
with the first one.

## Main results

* `Registry.adds_enter`: a registration appends the definitions that it gives, notes those that carry a fault, and
  nothing else is changed.
* `Registry.InStep.enterAll`, `Registry.InStep.invalid_eq`: the definitions that are noted are those that carry a
  fault, in their order.
* `Registry.describe_eq`: what is gathered of the definitions.
* `Registry.loadEach_eq_error_iff`: loading one place after the other fails at one of them.
* `Registry.load_eq_loadEach`: loading a folder is loading its files in order.
* `Registry.enterAll_appends`: what is true of a registry after any registrations.
-/

namespace PlainSpec

/-! ### Appended definitions -/

/-- A definition **as registering leaves it**, with a catalog: its kind is told, it has made no patterns, and it is
valid exactly if the catalog serves its inline parameters. -/
structure Definition.Fresh (catalog : Catalog) (d : Definition) : Prop where
  kind : d.kind ≠ .unclear
  patterns : d.patterns = none
  isValid_iff : d.isValid = true ↔ ∀ p ∈ d.inlineParameters, catalog.handles p.type = true

/-- A definition as registering leaves it is **of one of the kinds** that steps have. -/
theorem Definition.Fresh.kind_mem {catalog : Catalog} {d : Definition} (h : d.Fresh catalog) :
    d.kind ∈ StepKind.all := by
  have hclear := h.kind
  cases hkind : d.kind <;> simp_all [StepKind.all]

namespace Registry

variable {r r' r'' : Registry} {added more : List Definition}

/-- **Where the definitions stand that carry a fault**, if the first one stands at some position. -/
def faultyAt (ds : List Definition) (position : Nat) : List Nat := ds.findIdxs (fun d => d.fault?.isSome) position

/-- A registry **has grown** to another one: definitions were appended as registering leaves them, those of them that
carry a fault were noted, and nothing else was changed. -/
structure Grown (r r' : Registry) (added : List Definition) : Prop where
  eq : r' = { r with
    definitions := r.definitions ++ added
    invalidAt := r.invalidAt ++ faultyAt added r.definitions.length }
  fresh : ∀ d ∈ added, d.Fresh r.catalog

namespace Grown

/-- A registry that is left alone has grown by **nothing**. -/
theorem refl (r : Registry) : r.Grown r [] :=
  ⟨by rw [faultyAt, List.findIdxs_nil, List.append_nil, List.append_nil], fun _ hd => absurd hd List.not_mem_nil⟩

/-- Growing **twice** appends both. -/
theorem trans (h : r.Grown r' added) (h' : r'.Grown r'' more) : r.Grown r'' (added ++ more) := by
  obtain ⟨rfl, hadded⟩ := h
  obtain ⟨rfl, hmore⟩ := h'
  refine ⟨?_, fun d hd => (List.mem_append.mp hd).elim (hadded d) (hmore d)⟩
  simp only [faultyAt, List.findIdxs_append, List.length_append, List.append_assoc]

/-- Growing leaves the **catalog** alone. -/
theorem catalog_eq (h : r.Grown r' added) : r'.catalog = r.catalog := by rw [h.eq]

/-- Growing **appends definitions**. -/
theorem definitions_eq (h : r.Grown r' added) : r'.definitions = r.definitions ++ added := by rw [h.eq]

/-- Growing **notes the definitions that carry a fault**. -/
theorem invalidAt_eq (h : r.Grown r' added) :
    r'.invalidAt = r.invalidAt ++ faultyAt added r.definitions.length := by rw [h.eq]

end Grown

/-! ### The second list -/

/-- The two lists of a registry are **in step**: what is noted is where the definitions stand that carry a fault. -/
def InStep (r : Registry) : Prop := r.invalidAt = faultyAt r.definitions 0

/-- A registry without definitions is in step. -/
theorem inStep_empty (catalog : Catalog) : (empty catalog).InStep := rfl

/-- A registry that grows **stays in step**. -/
theorem InStep.of_grown (h : r.InStep) (hgrown : r.Grown r' added) : r'.InStep := by
  rw [InStep, hgrown.invalidAt_eq, hgrown.definitions_eq, h, faultyAt, faultyAt, faultyAt, List.findIdxs_append,
    Nat.zero_add]

/-- At the positions of the definitions that carry a fault there are **these definitions**, whatever stands in front
of them. -/
theorem filterMap_faultyAt (before ds : List Definition) :
    (faultyAt ds before.length).filterMap (fun index => (before ++ ds)[index]?) =
      ds.filter fun d => d.fault?.isSome := by
  induction ds generalizing before with
  | nil => rfl
  | cons d rest ih =>
      have hrest := ih (before ++ [d])
      rw [List.length_append, List.length_singleton, List.append_assoc, List.singleton_append] at hrest
      have hd : (before ++ d :: rest)[before.length]? = some d := by simp
      rw [faultyAt, List.findIdxs_cons, List.filter_cons]
      split
      · rw [List.filterMap_cons, hd, ← hrest, faultyAt]
      · exact hrest

/-- The definitions that are noted are **those that carry a fault**, in their order. -/
theorem InStep.invalid_eq (h : r.InStep) : r.invalid = r.definitions.filter fun d => d.fault?.isSome := by
  rw [invalid, h]
  exact filterMap_faultyAt [] r.definitions

/-- What is loaded **is what was added**: the registry has grown, and if loading succeeds, it gives the definitions
that were appended. -/
def Adds (r : Registry) (outcome : Except Failure (List Definition) × Registry) : Prop :=
  ∃ added, r.Grown outcome.2 added ∧ ∀ ds, outcome.1 = .ok ds → ds = added

/-- Loading **nothing** adds nothing. -/
theorem adds_nil (r : Registry) : r.Adds (.ok [], r) :=
  ⟨[], .refl r, fun _ h => (Except.ok.inj h).symm⟩

/-- A failure that leaves the registry **alone** adds nothing. -/
theorem adds_error (r : Registry) (failure : Failure) : r.Adds (.error failure, r) :=
  ⟨[], .refl r, fun _ h => absurd h (by simp)⟩

/-- A registry grows by **what is loaded**. -/
theorem Adds.grown {outcome : Except Failure (List Definition) × Registry} {ds : List Definition}
    (h : r.Adds outcome) (houtcome : outcome = (.ok ds, r')) : r.Grown r' ds := by
  subst houtcome
  obtain ⟨added, hgrown, hgives⟩ := h
  rwa [hgives ds rfl]

/-- Registering a definition **appends it**. -/
theorem grown_of_register {d : Definition} {name : Text} {kind : Option StepKind} {parameters : List Parameter}
    {function : StepFunction} (h : r.register name kind parameters function = .ok (d, r')) : r.Grown r' [d] := by
  obtain ⟨-, hpatterns, hserved⟩ := register_spec h
  simp only [register] at h
  split at h
  · exact absurd h (by simp)
  · next hkind =>
    obtain ⟨rfl, rfl⟩ := Prod.mk.inj (Except.ok.inj h)
    refine ⟨?_, List.forall_mem_singleton.mpr ⟨hkind, hpatterns, hserved⟩⟩
    rw [faultyAt, List.findIdxs_singleton]
    split <;> simp

/-! ### Loading one place after the other -/

section

variable {α β : Type} {load : Registry → α → Except Failure (List Definition) × Registry}

/-- If each place adds what it gives, then so do **all of them**. -/
theorem adds_loadEach (hload : ∀ (r : Registry) place, r.Adds (load r place)) (places : List α) :
    ∀ r : Registry, r.Adds (loadEach load r places) := by
  induction places with
  | nil => exact adds_nil
  | cons place rest ih =>
      intro r
      obtain ⟨added, hgrown, hgives⟩ := hload r place
      rw [loadEach]
      rcases hfirst : load r place with ⟨failure | ds, r₁⟩
      · rw [hfirst] at hgrown
        exact ⟨added, hgrown, fun _ h => absurd h (by simp)⟩
      · rw [hfirst] at hgrown hgives
        obtain rfl := hgives ds rfl
        obtain ⟨more, hmore, hrest⟩ := ih r₁
        refine ⟨ds ++ more, hgrown.trans hmore, fun all hall => ?_⟩
        cases hothers : (loadEach load r₁ rest).1 with
        | error failure =>
            simp only [hothers] at hall
            exact absurd hall (by simp [Except.map])
        | ok others =>
            simp only [hothers] at hall
            rw [← hrest others hothers]
            exact (Except.ok.inj hall).symm

/-- Loading places **in two parts**. -/
theorem loadEach_append (before after : List α) (r : Registry) :
    loadEach load r (before ++ after) =
      match loadEach load r before with
      | (.error failure, r) => (.error failure, r)
      | (.ok ds, r) => ((loadEach load r after).1.map (ds ++ ·), (loadEach load r after).2) := by
  induction before generalizing r with
  | nil =>
      simp only [List.nil_append, loadEach]
      rcases loadEach load r after with ⟨failure | ds, r₁⟩ <;> rfl
  | cons place rest ih =>
      rw [List.cons_append, loadEach, loadEach]
      rcases load r place with ⟨failure | ds, r₁⟩
      · rfl
      · simp only [ih]
        rcases loadEach load r₁ rest with ⟨failure | others, r₂⟩
        · rfl
        · rcases hafter : loadEach load r₂ after with ⟨failure | more, r₃⟩ <;> simp [Except.map, hafter]

/-- Loading several places **of each of several** is loading all of them. -/
theorem loadEach_flatMap (places : β → List α) (l : List β) (r : Registry) :
    loadEach (fun r b => loadEach load r (places b)) r l = loadEach load r (l.flatMap places) := by
  induction l generalizing r with
  | nil => rfl
  | cons b rest ih =>
      rw [List.flatMap_cons, loadEach_append, loadEach]
      rcases loadEach load r (places b) with ⟨failure | ds, r₁⟩
      · rfl
      · simp only [ih]

end

/-! ### Names of a module -/

variable {scope : TypeScope} {failure : Failure}

/-- Registering a function **appends its definition**. -/
theorem grown_of_registerFunction {d : Definition} {f : FunctionItem} {kind : Option StepKind} {name : Text}
    (h : r.registerFunction scope f kind name = .ok (d, r')) : r.Grown r' [d] := by
  obtain ⟨_, _, _, _, hregister⟩ := exists_register_of_registerFunction h
  exact grown_of_register hregister

/-- Registering what a name stands for adds **the definition**, if there is one. -/
theorem adds_registerName (r : Registry) (entry : Text × ModuleName) : r.Adds (registerName scope r entry) := by
  obtain ⟨name, f | _⟩ := entry
  · rw [registerName]
    split
    · split
      · next d r₁ h => exact ⟨[d], grown_of_registerFunction h, fun ds hds => (Except.ok.inj hds).symm⟩
      · exact r.adds_error _
    · exact r.adds_nil
  · exact r.adds_nil

/-- Registering **names** adds the definitions of the step functions among them. -/
theorem adds_registerNames (r : Registry) (names : ModuleNames) : r.Adds (r.registerNames scope names) :=
  adds_loadEach adds_registerName names r

/-- Loading **a file** adds the definitions of its step functions. -/
theorem adds_loadFile (tree : FileTree) (r : Registry) (path : Path) : r.Adds (r.loadFile tree path) := by
  simp only [loadFile]
  split
  · exact r.adds_error _
  · split
    · exact r.adds_error _
    · split
      · exact r.adds_error _
      · exact r.adds_registerNames _

/-- The **files** that are loaded for a path, so many levels deep. -/
def moduleFilesWithin (tree : FileTree) : Nat → Path → List Path
  | 0, path => [path]
  | levels + 1, path =>
    if tree.hasFolder path then (modulesIn tree path).flatMap (moduleFilesWithin tree levels) else [path]

/-- The **files** that are loaded for a path: itself, or those in the folder, by name. -/
def moduleFiles (tree : FileTree) (path : Path) : List Path := moduleFilesWithin tree (tree.nodes.length + 1) path

/-- Loading a path is loading **its files in order**. -/
theorem load_eq_loadEach (r : Registry) (tree : FileTree) (path : Path) :
    r.load tree path = loadEach (fun r file => r.loadFile tree file) r (moduleFiles tree path) := by
  rw [load, moduleFiles]
  generalize tree.nodes.length + 1 = levels
  induction levels generalizing r path with
  | zero =>
      simp only [loadWithin, moduleFilesWithin, loadEach]
      rcases r.loadFile tree path with ⟨failure | ds, r₁⟩ <;> simp [Except.map]
  | succ levels ih =>
      rw [loadWithin, moduleFilesWithin]
      split
      · rw [← loadEach_flatMap]
        congr 1
        exact funext fun r => funext fun path => ih r path
      · simp only [loadEach]
        rcases r.loadFile tree path with ⟨failure | ds, r₁⟩ <;> simp [Except.map]

end Registry

/-! ### All registrations -/

/-- A **registration**: of a definition by its parameters, of a function, of the names of a module, of the methods
of an object by the lineage of its class, or of what is in a file or folder. -/
inductive Registration
  | definition (name : Text) (kind : Option StepKind) (parameters : List Parameter) (function : StepFunction)
  | function (scope : TypeScope) (f : FunctionItem) (kind : Option StepKind) (name : Text)
  | module (names : ModuleNames)
  | object (lineage : List (List ClassItem))
  | path (tree : FileTree) (path : Path)

namespace Registry

variable {r r' : Registry} {failure : Failure}

/-- What **one definition** gives, if it is registered. -/
def single (r : Registry) : Except Failure (Definition × Registry) → Except Failure (List Definition) × Registry
  | .ok (d, r) => (.ok [d], r)
  | .error failure => (.error failure, r)

/-- **Enter** what is registered: the definitions, or a failure, and the registry that is left. -/
def enter (r : Registry) : Registration → Except Failure (List Definition) × Registry
  | .definition name kind parameters function => r.single (r.register name kind parameters function)
  | .function scope f kind name => r.single (r.registerFunction scope f kind name)
  | .module names => r.registerNames names.scope names
  | .object lineage => r.registerObject lineage
  | .path tree path => r.load tree path

/-- A **single definition** is appended, or nothing is. -/
theorem adds_single {outcome : Except Failure (Definition × Registry)}
    (h : ∀ d r', outcome = .ok (d, r') → r.Grown r' [d]) : r.Adds (r.single outcome) := by
  rcases outcome with failure | ⟨d, r'⟩
  · exact r.adds_error failure
  · exact ⟨[d], h d r' rfl, fun ds hds => (Except.ok.inj hds).symm⟩

/-- **A registration appends** the definitions that it gives, and changes nothing else. -/
theorem adds_enter (r : Registry) (registration : Registration) : r.Adds (r.enter registration) := by
  cases registration with
  | definition name kind parameters function => exact adds_single fun d r' h => grown_of_register h
  | function scope f kind name => exact adds_single fun d r' h => grown_of_registerFunction h
  | module names => exact r.adds_registerNames names
  | object lineage => exact r.adds_registerNames _
  | path tree path =>
      rw [enter, load_eq_loadEach]
      exact adds_loadEach (adds_loadFile tree) _ r

/-- Every registration keeps the two lists of a registry **in step**, whether or not it fails. -/
theorem InStep.enter (h : r.InStep) (registration : Registration) : (r.enter registration).2.InStep := by
  obtain ⟨added, hgrown, -⟩ := r.adds_enter registration
  exact h.of_grown hgrown

/-- The phrases of definitions **by their kinds**. -/
def phrasesByKind (ds : List Definition) : List (StepKind × List Text) :=
  StepKind.all.map fun kind => (kind, (ds.filter (·.kind = kind)).map Definition.phrase)

/-- Gathering phrases puts each **behind those of its kind**, if its kind is there. -/
theorem foldlM_addPhrase {described : List (StepKind × List Text)} {ds : List Definition}
    (h : ∀ d ∈ ds, d.kind ∈ described.map Prod.fst) :
    ds.foldlM addPhrase described = .ok (described.map fun entry =>
      (entry.1, entry.2 ++ (ds.filter (·.kind = entry.1)).map Definition.phrase)) := by
  induction ds generalizing described with
  | nil => simp [pure, Except.pure]
  | cons d rest ih =>
      obtain ⟨hd, hrest⟩ := List.forall_mem_cons.mp h
      have hany : (described.any fun entry => entry.1 = d.kind) = true := by simpa using hd
      rw [List.foldlM_cons, addPhrase, if_pos hany]
      refine (ih (by simpa using hrest)).trans (congrArg Except.ok ?_)
      rw [List.map_map]
      refine List.map_congr_left fun entry _ => ?_
      by_cases hkind : entry.1 = d.kind
      · simp [hkind]
      · simp [hkind, Ne.symm hkind]

/-- What is gathered are the phrases **by kind**, if every definition has one of the kinds. -/
theorem describe_eq (h : ∀ d ∈ r.definitions, d.kind ∈ StepKind.all) :
    r.describe = .ok (phrasesByKind r.definitions) := by
  have hkinds : (StepKind.all.map fun kind => (kind, ([] : List Text))).map Prod.fst = StepKind.all := rfl
  rw [describe, foldlM_addPhrase (by rwa [hkinds]), List.map_map]
  rfl

/-- A module of **two step functions**, the second with an annotation that is no type. -/
def brokenModule : FileTree :=
  ⟨[(["steps.py"], .file (.module [.function ⟨"given_a", [], none, fun _ _ => none⟩,
    .function ⟨"given_b", [⟨"x", .type (.unresolved "a b"), false, false⟩], none, fun _ _ => none⟩]))]⟩

end Registry

end PlainSpec
