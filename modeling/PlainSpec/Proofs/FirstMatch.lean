import PlainSpec.Proofs.RegistryHistory

/-!
# The first match

A step is bound to the first definition that takes it, with the arguments that the first of its patterns gives.
While nothing is added to the catalog this does not depend on what is registered later: a step that is bound stays
bound to its definition, and a step that is undefined stays so unless a definition of its kind comes.

## Main results

* `bindAmong_eq_some_iff`, `bindAmong_eq_none_iff`: what looking for a definition finds.
* `Registry.bind_takes`: what is found for a step, now and later.
-/

namespace PlainSpec

namespace Definition

variable {catalog : Catalog} {d e : Definition} {body : Text} {kind : StepKind} {step : Step}
  {patterns : List LinePattern} {arguments others : Entries Value}

/-! ### What a definition takes -/

/-- A pattern **gives arguments** for a text: it matches, and what it has captured has values. -/
def Gives (catalog : Catalog) (body : Text) (d : Definition) (pattern : LinePattern) (arguments : Entries Value) :
    Prop :=
  ∃ way, pattern.match? body = some way ∧ d.arguments catalog way = .ok arguments

/-- The **first of several patterns** that gives arguments for a text gives these. -/
def FirstGives (catalog : Catalog) (body : Text) (d : Definition) (patterns : List LinePattern)
    (arguments : Entries Value) : Prop :=
  ∃ before pattern after, patterns = before ++ pattern :: after ∧
    (∀ earlier ∈ before, ∀ others, ¬d.Gives catalog body earlier others) ∧ d.Gives catalog body pattern arguments

/-- A definition **takes a step** with arguments: it is a valid one of the step's kind, and the first of the patterns
of its phrase that gives arguments gives these. -/
structure Takes (catalog : Catalog) (step : Step) (d : Definition) (arguments : Entries Value) : Prop where
  kind : d.kind = step.kind
  valid : d.isValid = true
  first : ∃ patterns, phrasePatterns catalog d.phrase d.inlineParameters = .ok patterns ∧
    d.FirstGives catalog step.body patterns arguments

/-- A pattern gives **no other** arguments. -/
theorem Gives.unique {pattern : LinePattern} (h : d.Gives catalog body pattern arguments)
    (h' : d.Gives catalog body pattern others) : arguments = others := by
  obtain ⟨way, hmatch, hgives⟩ := h
  obtain ⟨way', hmatch', hgives'⟩ := h'
  obtain rfl := Option.some.inj (hmatch.symm.trans hmatch')
  exact Except.ok.inj (hgives.symm.trans hgives')

/-- The first of several patterns, where there is **one in front**. -/
theorem firstGives_cons {pattern : LinePattern} :
    d.FirstGives catalog body (pattern :: patterns) arguments ↔ d.Gives catalog body pattern arguments ∨
      (∀ others, ¬d.Gives catalog body pattern others) ∧ d.FirstGives catalog body patterns arguments :=
  exists_split_cons_iff

/-- The first of several patterns gives **no other** arguments. -/
theorem FirstGives.unique (h : d.FirstGives catalog body patterns arguments)
    (h' : d.FirstGives catalog body patterns others) : arguments = others := by
  induction patterns with
  | nil =>
      obtain ⟨before, pattern, after, hnil, -⟩ := h
      exact absurd hnil (by simp)
  | cons pattern rest ih =>
      rcases firstGives_cons.mp h with h | ⟨hnone, h⟩ <;> rcases firstGives_cons.mp h' with h' | ⟨hnone', h'⟩
      · exact h.unique h'
      · exact absurd h (hnone' _)
      · exact absurd h' (hnone _)
      · exact ih h h'

/-- A definition takes a step with **no other** arguments. -/
theorem Takes.unique (h : d.Takes catalog step arguments) (h' : d.Takes catalog step others) :
    arguments = others := by
  obtain ⟨patterns, hpatterns, hfirst⟩ := h.first
  obtain ⟨patterns', hpatterns', hfirst'⟩ := h'.first
  obtain rfl := Except.ok.inj (hpatterns.symm.trans hpatterns')
  exact hfirst.unique hfirst'

/-! ### What looking at a definition gives -/

/-- **Reading a text** gives what the first pattern gives that gives anything. -/
theorem firstGives_of_read (h : d.read catalog body patterns = .ok (some arguments)) :
    d.FirstGives catalog body patterns arguments := by
  induction patterns with
  | nil => exact absurd h (by simp [read])
  | cons pattern rest ih =>
      rw [firstGives_cons]
      simp only [read] at h
      split at h
      · next hnone =>
        refine .inr ⟨?_, ih h⟩
        rintro others ⟨way, hmatch, -⟩
        simp [hnone] at hmatch
      · next way hmatch =>
        split at h
        · next found hfound =>
          obtain rfl := Option.some.inj (Except.ok.inj h)
          exact .inl ⟨way, hmatch, hfound⟩
        · next failure hfails =>
          split at h
          · refine .inr ⟨?_, ih h⟩
            rintro others ⟨way', hmatch', hgives⟩
            obtain rfl := Option.some.inj (hmatch.symm.trans hmatch')
            exact absurd (hfails.symm.trans hgives) (by simp)
          · exact absurd h (by simp)

/-- A text that is **not read** is given no arguments by any pattern. -/
theorem not_gives_of_read (h : d.read catalog body patterns = .ok none) :
    ∀ pattern ∈ patterns, ∀ others, ¬d.Gives catalog body pattern others := by
  induction patterns with
  | nil => exact fun pattern hpattern => absurd hpattern List.not_mem_nil
  | cons pattern rest ih =>
      simp only [read] at h
      rw [List.forall_mem_cons]
      split at h
      · next hnone =>
        refine ⟨?_, ih h⟩
        rintro others ⟨way, hmatch, -⟩
        simp [hnone] at hmatch
      · next way hmatch =>
        split at h
        · exact absurd h (by simp)
        · next failure hfails =>
          split at h
          · refine ⟨?_, ih h⟩
            rintro others ⟨way', hmatch', hgives⟩
            obtain rfl := Option.some.inj (hmatch.symm.trans hmatch')
            exact absurd (hfails.symm.trans hgives) (by simp)
          · exact absurd h (by simp)

/-- A definition keeps **no other patterns** than those that it makes with a catalog. -/
def UpToDate (catalog : Catalog) (d : Definition) : Prop :=
  ∀ patterns, d.patterns = some patterns → d.Makes catalog patterns

/-- A new definition **keeps none**. -/
theorem Fresh.upToDate (h : d.Fresh catalog) : d.UpToDate catalog := fun patterns hkept =>
  absurd (h.patterns.symm.trans hkept) (by simp)

/-- A definition that settles keeps **those that it makes**. -/
theorem UpToDate.settles (h : d.UpToDate catalog) (hsettles : d.Settles catalog e) : e.UpToDate catalog := by
  rcases hsettles with rfl | ⟨patterns, -, hmakes, rfl⟩
  · exact h
  · intro kept hkept
    obtain rfl := Option.some.inj hkept
    exact ⟨hmakes.phrase, hmakes.usable⟩

/-- Compiling an up-to-date definition gives **those that it makes**. -/
theorem UpToDate.makes (h : d.UpToDate catalog) (hcompile : d.compile catalog = .ok (patterns, e)) :
    d.Makes catalog patterns := by
  rcases compile_eq_ok_iff.mp hcompile with ⟨hkept, -⟩ | ⟨-, hmakes, -⟩
  · exact h patterns hkept
  · exact hmakes

/-- Reading a text takes **no notice of kept patterns**. -/
theorem read_of_compile (hcompile : d.compile catalog = .ok (patterns, e)) :
    e.read catalog body patterns = d.read catalog body patterns := by
  have harguments : e.arguments catalog = d.arguments catalog := by
    rw [← fields_of_compile hcompile]
    rfl
  clear hcompile
  induction patterns with
  | nil => rfl
  | cons pattern rest ih => simp only [read, harguments, ih]

/-- **How a definition reads a text**: it is a valid one of the kind, and its patterns give arguments. -/
theorem reading_eq_some_iff : d.reading catalog kind body = .ok (some (e, arguments)) ↔
    d.kind = kind ∧ d.isValid = true ∧
      ∃ patterns, d.compile catalog = .ok (patterns, e) ∧ d.read catalog body patterns = .ok (some arguments) := by
  by_cases hchosen : d.kind = kind ∧ d.isValid = true
  · simp only [reading, hchosen, decide_true, Bool.and_true, if_true, true_and]
    rcases hcompile : d.compile catalog with failure | ⟨patterns, e'⟩
    · simp
    · simp only [read_of_compile hcompile, Except.ok.injEq, Prod.mk.injEq]
      rcases hread : d.read catalog body patterns with failure | _ | found <;>
        simp [Except.map, hread, and_comm]
  · rw [reading, if_neg (by simpa using hchosen)]
    simp only [Except.ok.injEq, reduceCtorEq, false_iff]
    rintro ⟨hkind, hvalid, -⟩
    exact hchosen ⟨hkind, hvalid⟩

/-- **How a definition does not read a text**, if it is a valid one of the kind: its patterns give nothing. -/
theorem exists_compile_of_reading_none (h : d.reading catalog kind body = .ok none) (hkind : d.kind = kind)
    (hvalid : d.isValid = true) :
    ∃ patterns e, d.compile catalog = .ok (patterns, e) ∧ d.read catalog body patterns = .ok none := by
  simp only [reading, hkind, hvalid, decide_true, Bool.and_true, if_true] at h
  rcases hcompile : d.compile catalog with failure | ⟨patterns, e⟩ <;> simp only [hcompile] at h
  · exact absurd h (by simp)
  · refine ⟨patterns, e, rfl, ?_⟩
    rw [read_of_compile hcompile] at h
    rcases hread : d.read catalog body patterns with failure | _ | found
    · exact absurd h (by simp [hread, Except.map])
    · rfl
    · exact absurd h (by simp [hread, Except.map])

/-- A definition that **reads a step** takes it. -/
theorem UpToDate.takes (h : d.UpToDate catalog)
    (hreading : d.reading catalog step.kind step.body = .ok (some (e, arguments))) :
    d.Takes catalog step arguments := by
  obtain ⟨hkind, hvalid, patterns, hcompile, hread⟩ := reading_eq_some_iff.mp hreading
  exact ⟨hkind, hvalid, patterns, (h.makes hcompile).phrase, firstGives_of_read hread⟩

/-- A definition that **does not read a step** does not take it. -/
theorem UpToDate.not_takes (h : d.UpToDate catalog)
    (hreading : d.reading catalog step.kind step.body = .ok none) : ¬d.Takes catalog step arguments := by
  rintro ⟨hkind, hvalid, made, hmade, before, pattern, after, rfl, -, hgives⟩
  obtain ⟨patterns, e, hcompile, hread⟩ := exists_compile_of_reading_none hreading hkind hvalid
  obtain rfl := Except.ok.inj ((h.makes hcompile).phrase.symm.trans hmade)
  exact not_gives_of_read hread pattern (List.mem_append_right _ List.mem_cons_self) _ hgives

/-- What reads a text is **the definition itself**, apart from the patterns that it keeps. -/
theorem fields_of_reading (h : d.reading catalog kind body = .ok (some (e, arguments))) :
    { d with patterns := e.patterns } = e := by
  obtain ⟨-, -, patterns, hcompile, -⟩ := reading_eq_some_iff.mp h
  exact fields_of_compile hcompile

/-- Definitions that match alike **read alike**. -/
theorem Alike.reading_eq (h : Alike catalog d e) : d.reading catalog kind body = e.reading catalog kind body := by
  rw [reading, reading, h.kind_eq, h.isValid_eq, h.compile]

end Definition

/-! ### What looking for a definition finds -/

section

variable {catalog : Catalog} {kind : StepKind} {body : Text} {ds : List Definition} {position : Nat}

/-- **Nothing is found** exactly if no definition reads the text. -/
theorem bindAmong_eq_none_iff :
    (bindAmong catalog kind body position ds).1 = .ok none ↔
      ∀ d ∈ ds, d.reading catalog kind body = .ok none := by
  induction ds generalizing position with
  | nil => simp [bindAmong]
  | cons d rest ih =>
      rw [bindAmong_cons, List.forall_mem_cons]
      rcases d.reading catalog kind body with failure | _ | ⟨e, arguments⟩ <;> simp [ih]

/-- **A definition is found** exactly if it is the first that reads the text. -/
theorem bindAmong_eq_some_iff {b : Binding} :
    (bindAmong catalog kind body position ds).1 = .ok (some b) ↔
      ∃ i d, b.index = position + i ∧ ds[i]? = some d ∧
        d.reading catalog kind body = .ok (some (b.definition, b.arguments)) ∧
        ∀ j c, j < i → ds[j]? = some c → c.reading catalog kind body = .ok none := by
  induction ds generalizing position with
  | nil => simp [bindAmong]
  | cons d rest ih =>
      rw [bindAmong_cons]
      constructor
      · intro h
        rcases hreading : d.reading catalog kind body with failure | _ | ⟨e, arguments⟩ <;>
          simp only [hreading] at h
        · exact absurd h (by simp)
        · obtain ⟨i, c, hindex, hc, hfound, hbefore⟩ := ih.mp h
          refine ⟨i + 1, c, by omega, hc, hfound, fun j a hj ha => ?_⟩
          cases j with
          | zero => exact Option.some.inj ha ▸ hreading
          | succ j => exact hbefore j a (by omega) ha
        · obtain rfl := Option.some.inj (Except.ok.inj h)
          exact ⟨0, d, rfl, rfl, hreading, fun j _ hj => absurd hj (Nat.not_lt_zero j)⟩
      · rintro ⟨i, c, hindex, hc, hfound, hbefore⟩
        cases i with
        | zero =>
            obtain rfl := Option.some.inj hc
            simp only [hfound]
            rw [← Nat.add_zero position, ← hindex]
        | succ i =>
            simp only [hbefore 0 d (Nat.succ_pos i) rfl]
            exact ih.mpr ⟨i, c, by omega, hc, hfound, fun j a hj ha => hbefore (j + 1) a (by omega) ha⟩

/-- The definition that is found **takes its place**, with the patterns that it keeps. -/
theorem getElem?_bindAmong {b : Binding} (h : (bindAmong catalog kind body position ds).1 = .ok (some b)) :
    ∃ i, b.index = position + i ∧ (bindAmong catalog kind body position ds).2[i]? = some b.definition := by
  induction ds generalizing position with
  | nil => exact absurd h (by simp [bindAmong])
  | cons d rest ih =>
      have hlater : (bindAmong catalog kind body (position + 1) rest).1 = .ok (some b) →
          ∀ e : Definition, ∃ i, b.index = position + i ∧
            (e :: (bindAmong catalog kind body (position + 1) rest).2)[i]? = some b.definition := by
        intro hrest e
        obtain ⟨i, hindex, hi⟩ := ih hrest
        exact ⟨i + 1, by omega, by simpa using hi⟩
      unfold bindAmong at h ⊢
      split at h
      · next hchosen =>
        rw [if_pos hchosen]
        rcases hcompile : d.compile catalog with failure | ⟨patterns, e⟩ <;> simp only [hcompile] at h ⊢
        · exact absurd h (by simp)
        · rcases hread : e.read catalog body patterns with failure | _ | arguments <;> simp only [hread] at h ⊢
          · exact absurd h (by simp)
          · exact hlater h e
          · obtain rfl := Option.some.inj (Except.ok.inj h)
            exact ⟨0, rfl, rfl⟩
      · next hchosen =>
        rw [if_neg hchosen]
        exact hlater h d

end

namespace Registry

variable {r : Registry} {catalog : Catalog} {step : Step} {ops : List Operation}

/-- **Nothing is bound** exactly if no definition reads the step. -/
theorem bind_eq_undefined_iff :
    (∃ closest, (r.bind step).1 = .ok (.undefined closest)) ↔
      ∀ d ∈ r.definitions, d.reading r.catalog step.kind step.body = .ok none := by
  rw [← bindAmong_eq_none_iff]
  simp only [bind]
  rcases (bindAmong r.catalog step.kind step.body 0 r.definitions).1 with failure | _ | b <;> simp [Except.map]

/-- What is bound is **what is found**. -/
theorem bind_eq_bound_iff_found {b : Binding} :
    (r.bind step).1 = .ok (.bound b) ↔
      (bindAmong r.catalog step.kind step.body 0 r.definitions).1 = .ok (some b) := by
  simp only [bind]
  rcases (bindAmong r.catalog step.kind step.body 0 r.definitions).1 with failure | _ | b <;> simp [Except.map]

/-- **A definition is bound** exactly if it is the first that reads the step. -/
theorem bind_eq_bound_iff {b : Binding} :
    (r.bind step).1 = .ok (.bound b) ↔
      ∃ d, r.definitions[b.index]? = some d ∧
        d.reading r.catalog step.kind step.body = .ok (some (b.definition, b.arguments)) ∧
        ∀ j c, j < b.index → r.definitions[j]? = some c → c.reading r.catalog step.kind step.body = .ok none := by
  rw [bind_eq_bound_iff_found, bindAmong_eq_some_iff]
  constructor
  · rintro ⟨i, d, hindex, h⟩
    rw [hindex, Nat.zero_add]
    exact ⟨d, h⟩
  · rintro ⟨d, h⟩
    exact ⟨b.index, d, (Nat.zero_add _).symm, h⟩

/-- The definition that is bound **takes its place**, with the patterns that it keeps. -/
theorem getElem?_bind {b : Binding} (h : (r.bind step).1 = .ok (.bound b)) :
    (r.bind step).2.definitions[b.index]? = some b.definition := by
  obtain ⟨i, hindex, hi⟩ := getElem?_bindAmong (bind_eq_bound_iff_found.mp h)
  rw [hindex, Nat.zero_add]
  exact hi

/-- A definition that is bound **keeps patterns**, which it made at some moment of the run, and is bound with the
arguments that the first of them gives. -/
theorem exists_making_of_bound {b : Binding} (h : (((empty catalog).run ops).bind step).1 = .ok (.bound b)) :
    ∃ before op after earlier pattern later way, ops ++ [.bind step] = before ++ op :: after ∧
      Making catalog before op b.index b.definition (earlier ++ pattern :: later) ∧
      (∀ other ∈ earlier, ∀ arguments,
        ¬b.definition.Gives ((empty catalog).run ops).catalog step.body other arguments) ∧
      pattern.match? step.body = some way ∧
      b.definition.arguments ((empty catalog).run ops).catalog way = .ok b.arguments := by
  obtain ⟨d, -, hreading, -⟩ := bind_eq_bound_iff.mp h
  obtain ⟨-, -, patterns, hcompile, hread⟩ := Definition.reading_eq_some_iff.mp hreading
  have hkept : b.definition.patterns = some patterns := by
    rcases Definition.compile_eq_ok_iff.mp hcompile with ⟨hkept, heq⟩ | ⟨-, -, heq⟩
    · rw [heq, hkept]
    · rw [heq]
  have hplace : ((empty catalog).run (ops ++ [.bind step])).definitions[b.index]? = some b.definition := by
    rw [run_append]
    exact getElem?_bind h
  obtain ⟨before, op, after, hsplit, hmaking⟩ := exists_making hplace hkept
  rw [← Definition.read_of_compile hcompile] at hread
  obtain ⟨earlier, pattern, later, rfl, hearlier, way, hmatch, harguments⟩ := Definition.firstGives_of_read hread
  exact ⟨before, op, after, earlier, pattern, later, way, hsplit, hmaking, hearlier, hmatch, harguments⟩

/-- In a run that adds nothing to the catalog, every definition **is up to date**. -/
theorem run_upToDate (hkeeps : ∀ op ∈ ops, op.keepsCatalog = true) :
    ∀ d ∈ ((empty catalog).run ops).definitions, d.UpToDate catalog :=
  forall_run hkeeps (fun _ hfresh => hfresh.upToDate) fun _ _ h hsettles => h.settles hsettles

/-- A definition that is **bound** takes the step, and none before it does. -/
theorem takes_of_bound {b : Binding} (hupToDate : ∀ d ∈ r.definitions, d.UpToDate r.catalog)
    (h : (r.bind step).1 = .ok (.bound b)) :
    (∃ d, r.definitions[b.index]? = some d ∧ d.Takes r.catalog step b.arguments) ∧
      ∀ j e others, j < b.index → r.definitions[j]? = some e → ¬e.Takes r.catalog step others := by
  obtain ⟨d, hd, hreading, hbefore⟩ := bind_eq_bound_iff.mp h
  refine ⟨⟨d, hd, (hupToDate d (List.mem_of_getElem? hd)).takes hreading⟩, fun j e others hj he => ?_⟩
  exact (hupToDate e (List.mem_of_getElem? he)).not_takes (hbefore j e hj he)

/-- Where **nothing is bound**, no definition takes the step. -/
theorem not_takes_of_undefined {closest : Option Text} (hupToDate : ∀ d ∈ r.definitions, d.UpToDate r.catalog)
    (h : (r.bind step).1 = .ok (.undefined closest)) :
    ∀ d ∈ r.definitions, ∀ arguments, ¬d.Takes r.catalog step arguments := fun d hd _ =>
  (hupToDate d hd).not_takes (bind_eq_undefined_iff.mp ⟨closest, h⟩ d hd)

/-- What is at a place **in front of a definition that was there** was there, too, and reads alike. -/
theorem reading_run {i : Nat} {d : Definition} (step : Step) (hkeeps : ∀ op ∈ ops, op.keepsCatalog = true)
    (hi : i < r.definitions.length) (hd : (r.run ops).definitions[i]? = some d) :
    ∃ e ∈ r.definitions, r.definitions[i]? = some e ∧
      e.reading r.catalog step.kind step.body = d.reading r.catalog step.kind step.body := by
  have he := List.getElem?_eq_getElem hi
  obtain ⟨d', hd', hsettles⟩ := run_settles hkeeps he
  obtain rfl := Option.some.inj (hd.symm.trans hd')
  exact ⟨_, List.getElem_mem hi, he, hsettles.alike.reading_eq⟩

/-- A step that is **bound stays bound**. -/
theorem bind_run_of_bound {b : Binding} (hkeeps : ∀ op ∈ ops, op.keepsCatalog = true)
    (h : (r.bind step).1 = .ok (.bound b)) : ((r.run ops).bind step).1 = .ok (.bound b) := by
  obtain ⟨d, hd, hreading, hbefore⟩ := bind_eq_bound_iff.mp h
  obtain ⟨e, he, hsettles⟩ := run_settles hkeeps hd
  rw [bind_eq_bound_iff, r.catalog_run_of_keeps hkeeps]
  refine ⟨e, he, hsettles.alike.reading_eq.symm.trans hreading, fun j c hj hc => ?_⟩
  have hlength : j < r.definitions.length := hj.trans (List.getElem?_eq_some_iff.mp hd).1
  obtain ⟨a, -, ha, hsame⟩ := reading_run step hkeeps hlength hc
  exact hsame.symm.trans (hbefore j a hj ha)

/-- A step that is undefined **stays undefined** if no definition of its kind comes. -/
theorem bind_run_of_undefined {closest : Option Text} (hkeeps : ∀ op ∈ ops, op.keepsCatalog = true)
    (h : (r.bind step).1 = .ok (.undefined closest))
    (hothers : ∀ i d, r.definitions.length ≤ i → (r.run ops).definitions[i]? = some d → d.kind ≠ step.kind) :
    ∃ closest, ((r.run ops).bind step).1 = .ok (.undefined closest) := by
  have hnone := bind_eq_undefined_iff.mp ⟨closest, h⟩
  rw [bind_eq_undefined_iff, r.catalog_run_of_keeps hkeeps]
  intro d hd
  obtain ⟨i, hi⟩ := List.getElem?_of_mem hd
  rcases Nat.lt_or_ge i r.definitions.length with hlt | hge
  · obtain ⟨e, hmem, -, hsame⟩ := reading_run step hkeeps hlt hi
    exact hsame.symm.trans (hnone e hmem)
  · simp [Definition.reading, hothers i d hge hi]

/-- There is **one earliest** definition that takes a step, and it does so with one list of arguments. -/
theorem earliest_unique {i j : Nat} {arguments others : Entries Value}
    (hi : ∃ d, r.definitions[i]? = some d ∧ d.Takes catalog step arguments)
    (hbefore : ∀ k e rest, k < i → r.definitions[k]? = some e → ¬e.Takes catalog step rest)
    (hj : ∃ d, r.definitions[j]? = some d ∧ d.Takes catalog step others)
    (hbefore' : ∀ k e rest, k < j → r.definitions[k]? = some e → ¬e.Takes catalog step rest) :
    i = j ∧ arguments = others := by
  obtain ⟨d, hd, htakes⟩ := hi
  obtain ⟨e, he, htakes'⟩ := hj
  rcases Nat.lt_trichotomy i j with hlt | rfl | hlt
  · exact absurd htakes (hbefore' i d _ hlt hd)
  · obtain rfl := Option.some.inj (hd.symm.trans he)
    exact ⟨rfl, htakes.unique htakes'⟩
  · exact absurd htakes' (hbefore j e _ hlt he)

/-- **The first match wins and stays.** Take a registry after any operations that add nothing to its catalog, and a
step for which matching does not fail. A definition is bound to it exactly if it is the earliest that takes the step,
and it is bound with the arguments with which it does; the step is undefined exactly if none takes it. What is bound
is the definition that is registered, apart from the patterns that it keeps. After any further operations of this kind
the very same is bound to the step, and a step that is undefined still is, unless a definition of its kind has come. -/
theorem bind_takes (catalog : Catalog) (ops : List Operation) (step : Step) (finding : Finding)
    (hkeeps : ∀ op ∈ ops, op.keepsCatalog = true)
    (hfinding : (((empty catalog).run ops).bind step).1 = .ok finding) :
    let r := (empty catalog).run ops
    (∀ i arguments, (∃ b, finding = .bound b ∧ b.index = i ∧ b.arguments = arguments) ↔
        (∃ d, r.definitions[i]? = some d ∧ d.Takes catalog step arguments) ∧
          ∀ j e others, j < i → r.definitions[j]? = some e → ¬e.Takes catalog step others) ∧
      ((∃ closest, finding = .undefined closest) ↔
        ∀ d ∈ r.definitions, ∀ arguments, ¬d.Takes catalog step arguments) ∧
      (∀ b, finding = .bound b → ∃ d, r.definitions[b.index]? = some d ∧
        { d with patterns := b.definition.patterns } = b.definition) ∧
      ∀ later : List Operation, (∀ op ∈ later, op.keepsCatalog = true) →
        (∀ b, finding = .bound b → ((r.run later).bind step).1 = .ok (.bound b)) ∧
        ((∃ closest, finding = .undefined closest) →
          (∀ i d, r.definitions.length ≤ i → (r.run later).definitions[i]? = some d → d.kind ≠ step.kind) →
            ∃ closest, ((r.run later).bind step).1 = .ok (.undefined closest)) := by
  intro r
  have hcatalog : r.catalog = catalog := (empty catalog).catalog_run_of_keeps hkeeps
  have hupToDate : ∀ d ∈ r.definitions, d.UpToDate r.catalog := by
    rw [hcatalog]
    exact run_upToDate hkeeps
  rw [← hcatalog]
  cases finding with
  | bound b =>
      obtain ⟨htakes, hfirst⟩ := takes_of_bound hupToDate hfinding
      refine ⟨fun i arguments => ⟨?_, ?_⟩, ?_, ?_, fun later hlater => ⟨?_, ?_⟩⟩
      · rintro ⟨b', hb', rfl, rfl⟩
        obtain rfl := Finding.bound.inj hb'
        exact ⟨htakes, hfirst⟩
      · rintro ⟨htakes', hfirst'⟩
        obtain ⟨hindex, harguments⟩ := earliest_unique htakes hfirst htakes' hfirst'
        exact ⟨b, rfl, hindex, harguments⟩
      · constructor
        · rintro ⟨closest, hclosest⟩
          exact absurd hclosest (by simp)
        · obtain ⟨d, hd, htakes⟩ := htakes
          exact fun hnone => absurd htakes (hnone d (List.mem_of_getElem? hd) _)
      · rintro b' hb'
        obtain rfl := Finding.bound.inj hb'
        obtain ⟨c, hc, hreading, -⟩ := bind_eq_bound_iff.mp hfinding
        exact ⟨c, hc, Definition.fields_of_reading hreading⟩
      · rintro b' hb'
        obtain rfl := Finding.bound.inj hb'
        exact bind_run_of_bound hlater hfinding
      · rintro ⟨closest, hclosest⟩
        exact absurd hclosest (by simp)
  | undefined closest =>
      have hnone := not_takes_of_undefined hupToDate hfinding
      refine ⟨fun i arguments => ⟨?_, ?_⟩, ⟨fun _ => hnone, fun _ => ⟨closest, rfl⟩⟩, ?_,
        fun later hlater => ⟨?_, ?_⟩⟩
      · rintro ⟨b, hb, -⟩
        exact absurd hb (by simp)
      · rintro ⟨⟨d, hd, htakes⟩, -⟩
        exact absurd htakes (hnone d (List.mem_of_getElem? hd) _)
      · exact fun b hb => absurd hb (by simp)
      · exact fun b hb => absurd hb (by simp)
      · exact fun _ hothers => bind_run_of_undefined hlater hfinding hothers

/-- Two definitions of one phrase: the first one takes **days**, the second one any text. -/
def dayOperations : List Operation :=
  [.enter (.definition "given_on_day" none [⟨"day", some .date, false⟩] ⟨"day", false, fun _ _ => none⟩),
    .enter (.definition "given_on_day" none [⟨"day", some .text, false⟩] ⟨"text", false, fun _ _ => none⟩)]

/-- A step with a day that the month **does not have**. -/
def dayStep : Step := ⟨.context, "Given on 2024-02-30", "Given", none⟩

/-- It is bound to the second definition, also after a module that breaks off has been loaded. -/
theorem bind_takes_day :
    (∀ op ∈ dayOperations, op.keepsCatalog = true) ∧
      ∃ b, (((empty Catalog.standard).run dayOperations).bind dayStep).1 = .ok (.bound b) ∧ b.index = 1 ∧
        (∃ d, ((empty Catalog.standard).run dayOperations).definitions[1]? = some d ∧
          d.Takes Catalog.standard dayStep b.arguments) ∧
        ((((empty Catalog.standard).run dayOperations).run
          [.enter (.path brokenModule ⟨["steps.py"]⟩)]).bind dayStep).1 = .ok (.bound b) := by
  have hkeeps : ∀ op ∈ dayOperations, op.keepsCatalog = true := by simp [dayOperations, Operation.keepsCatalog]
  have hbound : (((empty Catalog.standard).run dayOperations).bind dayStep).1 = .ok (.bound ⟨1, _, _⟩) := rfl
  obtain ⟨htakes, -, -, hlater⟩ := bind_takes Catalog.standard dayOperations _ _ hkeeps hbound
  exact ⟨hkeeps, _, hbound, rfl, ((htakes 1 _).mp ⟨_, rfl, rfl, rfl⟩).1,
    (hlater [.enter (.path brokenModule ⟨["steps.py"]⟩)] (by simp [Operation.keepsCatalog])).1 _ rfl⟩

end Registry

end PlainSpec
