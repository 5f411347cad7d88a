import PlainSpec.Proofs.MergedSettings
import PlainSpec.Settings.Load

/-!
# Loaded settings

Settings are loaded in stages: those of the file are laid over the default settings, those of the environment are put
and laid over these, variables are replaced, and the result is checked. Data may be of any shape at each stage. A file
whose data are no mapping is refused, and so is a result that is unfit for use; both are faults of the configuration.
Only the overrides of an environment are taken for a mapping without being looked at. Other overrides end the loading
with a failure that names no fault of the configuration, and this is the only way to another failure.

## Main results

* `Settings.validate_cases`: settings that pass the check are fit for use.
* `Settings.load_eq`: loading, stage by stage.
* `Settings.load_outcomes`: what can come of loading settings from files that hold data.
-/

namespace PlainSpec

/-- A file **holds data**, if it is there at all. -/
def FileTree.HoldsData (tree : FileTree) (path : Path) : Prop :=
  tree.hasPath path = true → ∃ data, tree.readData path = .ok (.ok data)

/-- Whether data can be **taken for settings**: they are a mapping or nothing. -/
def Datum.isSettings : Datum → Bool
  | null => true
  | value => value.isMapping

namespace Settings

variable {tree : FileTree} {vars inForce : Variables} {source : Source} {path : Path}

/-- Settings are **fit for use** if their steps are a list and their language is a text. -/
structure Fit (settings : Settings) : Prop where
  steps : ∃ paths, settings.lookup (.text "steps") = some (.list paths)
  language : ∃ code, settings.lookup (.text "language") = some (.text code)

/-! ### Stages -/

/-- **Checking settings** gives settings that are fit for use, or a fault of the configuration. -/
theorem validate_cases (settings : Settings) :
    (∃ fit, validate settings = .ok fit ∧ Fit fit) ∨ ∃ fault, validate settings = .error (.configuration fault) := by
  rw [validate]
  split
  · exact .inr ⟨_, rfl⟩
  · next checked hchecked =>
    have hsteps : ∃ paths, checked.lookup (.text "steps") = some (.list paths) := by
      split at hchecked
      · obtain rfl := Option.some.inj hchecked
        exact ⟨_, by rw [Entries.lookup_put, beq_self_eq_true, if_pos rfl]⟩
      · next paths hpaths =>
        obtain rfl := Option.some.inj hchecked
        exact ⟨paths, hpaths⟩
      · exact absurd hchecked (by simp)
    split
    · next code hcode => exact .inl ⟨checked, rfl, hsteps, code, hcode⟩
    · exact .inr ⟨_, rfl⟩

/-- **What a file gives whose data are read**: their entries if they can be taken for settings, else a fault of the
configuration. -/
theorem ofFile_eq {data : Datum} (h : tree.readData path = .ok (.ok data)) :
    ofFile tree path = if data.isSettings then .ok data.entries else .error (.configuration (.dataNotMapping path)) := by
  rw [ofFile, h]
  rcases data with (_ | _ | _ | _ | _ | _ | _) | items | entries <;> rfl

/-- Whether the settings of an environment hold **overrides that are no mapping**. -/
def misfitOverrides (environment : Datum) : Bool :=
  match environment.value? overridesKey with
  | some overrides => !overrides.isMapping
  | none => false

/-- **The settings of an environment** are laid over others unless their overrides are no mapping. -/
theorem withEnvironment_cases (settings environment : Settings) :
    (misfitOverrides (.mapping environment) = false ∧ ∃ together, withEnvironment settings environment = .ok together) ∨
      misfitOverrides (.mapping environment) = true ∧ withEnvironment settings environment = .error .notMapping := by
  rw [withEnvironment, misfitOverrides, Datum.value?]
  rcases environment.lookup overridesKey with _ | (s | items | overrides)
  · exact .inl ⟨rfl, _, rfl⟩
  · exact .inr ⟨rfl, rfl⟩
  · exact .inr ⟨rfl, rfl⟩
  · exact .inl ⟨rfl, _, rfl⟩

/-- The settings in the **file of a source**; a file that is not there holds none. -/
def fileSettings (tree : FileTree) (source : Source) : Except Failure Settings :=
  if tree.hasPath source.file then ofFile tree source.file else .ok []

/-- Settings with those of **the environment of a source** over them, if there is a file for it. -/
def withEnvironmentOf (tree : FileTree) (source : Source) (settings : Settings) : Except Failure Settings :=
  match source.environmentFile? with
  | none => .ok settings
  | some path =>
    if tree.hasPath path then (ofFile tree path).bind (withEnvironment settings) else .ok settings

/-- Settings in which variables are replaced, if they are **fit for use**. -/
def finished (vars : Variables) (settings : Settings) : Except Failure (Settings × Variables) :=
  (validate (substituteEntries vars settings)).map (·, vars)

/-- **Loading, stage by stage**: the settings of the file are laid over the default settings, and those of the
environment over these, before variables are replaced and the result is checked. -/
theorem load_eq (hvars : loadVariables tree vars source = .ok inForce) :
    (load tree vars source).2 = (fileSettings tree source).bind fun settings =>
      (withEnvironmentOf tree source (defaults.merge settings)).bind (finished inForce) := by
  have hbase : (do
      let vars ← loadVariables tree vars source
      let settings ← if tree.hasPath source.file then ofFile tree source.file else .ok []
      return (defaults.merge settings, vars)) = (fileSettings tree source).map (defaults.merge ·, inForce) := by
    rw [hvars, fileSettings]
    split
    · cases ofFile tree source.file <;> rfl
    · rfl
  rw [load]
  simp only [hbase]
  cases fileSettings tree source with
  | error failure => rfl
  | ok settings =>
      simp only [Except.map, Except.bind, withEnvironmentOf]
      cases source.environmentFile? with
      | none => rfl
      | some path =>
          simp only
          split
          · cases ofFile tree path <;> rfl
          · rfl

/-! ### Outcomes -/

/-- The file of a source **can be taken for settings**: it is not there, or its data are a mapping or nothing. -/
def FileTaken (tree : FileTree) (source : Source) : Prop :=
  tree.hasPath source.file = true → ∃ data, tree.readData source.file = .ok (.ok data) ∧ data.isSettings = true

/-- The environment of a source has **overrides that are no mapping**. -/
def OverridesMisfit (tree : FileTree) (source : Source) : Prop :=
  ∃ path data, source.environmentFile? = some path ∧ tree.hasPath path = true ∧
    tree.readData path = .ok (.ok data) ∧ misfitOverrides data = true

/-- **The settings in the file of a source**, if they can be taken; else there is a fault of the configuration. -/
theorem fileSettings_cases (hfile : tree.HoldsData source.file) :
    (FileTaken tree source ∧ ∃ settings, fileSettings tree source = .ok settings) ∨
      ¬FileTaken tree source ∧ ∃ fault, fileSettings tree source = .error (.configuration fault) := by
  rw [fileSettings]
  split
  · next hpath =>
    obtain ⟨data, hdata⟩ := hfile hpath
    rw [ofFile_eq hdata]
    split
    · next htaken => exact .inl ⟨fun _ => ⟨data, hdata, htaken⟩, _, rfl⟩
    · next hrefused =>
      refine .inr ⟨fun htaken => ?_, _, rfl⟩
      obtain ⟨other, hother, htaken⟩ := htaken hpath
      obtain rfl := Except.ok.inj (Except.ok.inj (hdata.symm.trans hother))
      exact hrefused htaken
  · next hpath => exact .inl ⟨fun h => absurd h hpath, [], rfl⟩

/-- **The settings of the environment of a source** are laid over others, or there is a fault of the configuration,
unless its overrides are no mapping. -/
theorem withEnvironmentOf_cases (henvironment : ∀ path, source.environmentFile? = some path → tree.HoldsData path)
    (settings : Settings) :
    (¬OverridesMisfit tree source ∧ ((∃ together, withEnvironmentOf tree source settings = .ok together) ∨
      ∃ fault, withEnvironmentOf tree source settings = .error (.configuration fault))) ∨
    OverridesMisfit tree source ∧ withEnvironmentOf tree source settings = .error .notMapping := by
  rw [withEnvironmentOf]
  cases hsource : source.environmentFile? with
  | none =>
      refine .inl ⟨?_, .inl ⟨settings, rfl⟩⟩
      rintro ⟨path, -, hother, -⟩
      exact absurd (hsource.symm.trans hother) (by simp)
  | some path =>
      simp only
      split
      · next hpath =>
        obtain ⟨data, hdata⟩ := henvironment path hsource hpath
        -- the overrides are those of the data that the file holds
        have hmisfit : OverridesMisfit tree source ↔ misfitOverrides data = true := by
          constructor
          · rintro ⟨_, other, hother, -, hread, hmisfit⟩
            obtain rfl := Option.some.inj (hsource.symm.trans hother)
            rwa [Except.ok.inj (Except.ok.inj (hdata.symm.trans hread))]
          · exact fun hmisfit => ⟨path, data, hsource, hpath, hdata, hmisfit⟩
        rw [hmisfit, ofFile_eq hdata]
        rcases data with s | items | environment
        · refine .inl ⟨Bool.false_ne_true, ?_⟩
          split
          · exact .inl ⟨_, rfl⟩
          · exact .inr ⟨_, rfl⟩
        · exact .inl ⟨Bool.false_ne_true, .inr ⟨_, rfl⟩⟩
        · rcases withEnvironment_cases settings environment with ⟨hfits, together, hok⟩ | ⟨hmisfit, hfails⟩
          · exact .inl ⟨Bool.eq_false_iff.mp hfits, .inl ⟨together, hok⟩⟩
          · exact .inr ⟨hmisfit, hfails⟩
      · next hpath =>
        refine .inl ⟨?_, .inl ⟨settings, rfl⟩⟩
        rintro ⟨_, -, hother, hthere, -⟩
        obtain rfl := Option.some.inj (hsource.symm.trans hother)
        exact hpath hthere

/-- **Loading settings from files that hold data** gives settings that are fit for use, or a fault of the
configuration, with one exception: if the file of the settings can be taken and the overrides of the environment are no
mapping, the loading fails otherwise. Without such overrides it never does. -/
theorem load_outcomes (hvars : loadVariables tree vars source = .ok inForce) (hfile : tree.HoldsData source.file)
    (henvironment : ∀ path, source.environmentFile? = some path → tree.HoldsData path) :
    (¬(FileTaken tree source ∧ OverridesMisfit tree source) →
      (∃ settings, (load tree vars source).2 = .ok (settings, inForce) ∧ Fit settings) ∨
        ∃ fault, (load tree vars source).2 = .error (.configuration fault)) ∧
    (FileTaken tree source ∧ OverridesMisfit tree source → (load tree vars source).2 = .error .notMapping) := by
  rw [load_eq hvars]
  rcases fileSettings_cases hfile with ⟨htaken, settings, hsettings⟩ | ⟨hrefused, fault, hfault⟩
  · rw [hsettings]
    simp only [Except.bind, htaken, true_and]
    rcases withEnvironmentOf_cases henvironment (defaults.merge settings) with
      ⟨hfits, ⟨together, htogether⟩ | ⟨fault, hfault⟩⟩ | ⟨hmisfit, hfails⟩
    · refine ⟨fun _ => ?_, fun hmisfit => absurd hmisfit hfits⟩
      rw [htogether]
      simp only [finished]
      rcases validate_cases (substituteEntries inForce together) with ⟨fit, hok, hfit⟩ | ⟨fault, hfault⟩
      · rw [hok]
        exact .inl ⟨fit, rfl, hfit⟩
      · rw [hfault]
        exact .inr ⟨fault, rfl⟩
    · refine ⟨fun _ => ?_, fun hmisfit => absurd hmisfit hfits⟩
      rw [hfault]
      exact .inr ⟨fault, rfl⟩
    · refine ⟨fun h => absurd hmisfit h, fun _ => ?_⟩
      rw [hfails]
  · rw [hfault]
    exact ⟨fun _ => .inr ⟨fault, rfl⟩, fun htaken => absurd htaken.1 hrefused⟩

/-- A tree with a file of settings, which sets nothing, and a file with the **overrides** of an environment. -/
def overridingTree (overrides : Datum) : FileTree :=
  ⟨[(["specbind.yaml"], .file (.data (.mapping []))), (["environments"], .folder),
    (["environments", "ci.yaml"], .file (.data (.record [("overrides", overrides)])))]⟩

/-- The settings of the tree, with those of **its environment**. -/
def overridingSource : Source := ⟨⟨["specbind.yaml"]⟩, some "ci", none⟩

/-- Both files of the tree **hold data**. -/
theorem holdsData_overridingTree (overrides : Datum) :
    (overridingTree overrides).HoldsData overridingSource.file ∧
      ∀ path, overridingSource.environmentFile? = some path → (overridingTree overrides).HoldsData path := by
  refine ⟨fun _ => ⟨_, rfl⟩, fun path hpath _ => ?_⟩
  obtain rfl := Option.some.inj hpath
  exact ⟨_, rfl⟩

/-- A tree with an environment that overrides **the language**. -/
def germanTree : FileTree := overridingTree (.record [("language", .text "de")])

/-- The overrides do not misfit, and the settings that are loaded are **fit for use**. -/
theorem load_outcomes_german :
    loadVariables germanTree [] overridingSource = .ok [] ∧ germanTree.HoldsData overridingSource.file ∧
      (∀ path, overridingSource.environmentFile? = some path → germanTree.HoldsData path) ∧
      ¬OverridesMisfit germanTree overridingSource ∧
      ∃ settings, (load germanTree [] overridingSource).2 = .ok (settings, []) ∧ Fit settings := by
  have hvars : loadVariables germanTree [] overridingSource = .ok [] := rfl
  obtain ⟨hfile, henvironment⟩ := holdsData_overridingTree (.record [("language", .text "de")])
  have hfits : ¬OverridesMisfit germanTree overridingSource := by
    rintro ⟨path, data, hpath, -, hread, hmisfit⟩
    obtain rfl := Option.some.inj hpath
    obtain rfl := Except.ok.inj (Except.ok.inj hread)
    exact absurd hmisfit (by decide)
  refine ⟨hvars, hfile, henvironment, hfits, ?_⟩
  rcases (load_outcomes hvars hfile henvironment).1 fun h => hfits h.2 with hloaded | ⟨fault, hfault⟩
  · exact hloaded
  · have hok : (load germanTree [] overridingSource).2.isOk = true := by decide
    rw [hfault] at hok
    exact absurd hok Bool.false_ne_true

/-- Overrides that are **a number** end the loading with neither settings nor a fault of the configuration. -/
theorem load_numberOverrides :
    loadVariables (overridingTree (.int 5)) [] overridingSource = .ok [] ∧
      (overridingTree (.int 5)).HoldsData overridingSource.file ∧
      (∀ path, overridingSource.environmentFile? = some path → (overridingTree (.int 5)).HoldsData path) ∧
      ¬((∃ loaded, (load (overridingTree (.int 5)) [] overridingSource).2 = .ok loaded) ∨
        ∃ fault, (load (overridingTree (.int 5)) [] overridingSource).2 = .error (.configuration fault)) := by
  obtain ⟨hfile, henvironment⟩ := holdsData_overridingTree (.int 5)
  have hload : (load (overridingTree (.int 5)) [] overridingSource).2 = .error .notMapping := rfl
  refine ⟨rfl, hfile, henvironment, ?_⟩
  rw [hload]
  rintro (⟨loaded, h⟩ | ⟨fault, h⟩) <;> cases h

end Settings

end PlainSpec
