import PlainSpec.Proofs.IdentifierCharacters

/-!
# Carriage returns in generated source

A file is read with its line breaks unified, so a text with a carriage return is not read back as it was written. The
source of a test module has no carriage returns of its own. What is in quotation marks has none, as they are escaped,
and neither have the names that are made of free text. So there are some in the source only if they are in what is
written as it is: the name of the specification file, and the base class.

## Main results

* `Text.notMem_quoted`: there are no carriage returns in quotation marks.
* `TestModule.notMem_toText`: what keeps carriage returns out of the source of a module.
* `Generator.notMem_testModule`: the source of a generated module.
-/

namespace PlainSpec

namespace Text

/-! ### Quoted texts -/

/-- What is read as a number consists of **hexadecimal digits**. -/
theorem isSome_hexValue?_of_mem {digits : Text} {n : Nat} (h : hexNumber? digits = some n) :
    ∀ c ∈ digits, (hexValue? c).isSome = true := by
  have hall : ∀ (digits : Text) (start : Nat),
      (digits.foldlM (fun n c => (hexValue? c).map (16 * n + ·)) start) = some n →
        ∀ c ∈ digits, (hexValue? c).isSome = true := by
    intro digits
    induction digits with
    | nil => exact fun _ _ c hc => absurd hc List.not_mem_nil
    | cons d digits ih =>
        intro start hfold
        rw [List.foldlM_cons] at hfold
        cases hd : hexValue? d with
        | none => exact absurd hfold (by simp [hd])
        | some value =>
            rw [hd] at hfold
            exact List.forall_mem_cons.mpr ⟨by rw [hd]; rfl, ih _ hfold⟩
  exact hall digits 0 h

/-- A carriage return is **no hexadecimal digit**. -/
theorem notMem_hex (width n : Nat) : '\r' ∉ hex width n := fun hmem =>
  absurd (isSome_hexValue?_of_mem (hexNumber?_hex width n) '\r' hmem) (by decide)

/-- A character in quotation marks is shown **without carriage returns**. -/
theorem notMem_quoteChar {mark : Char} (hmark : mark ≠ '\r') (c : Char) : '\r' ∉ quoteChar mark c := by
  rw [quoteChar]
  split_ifs with hescaped htab hfeed hreturn hshown hsmall hmiddle
  · simp only [Bool.or_eq_true, decide_eq_true_eq] at hescaped
    rcases hescaped with rfl | rfl
    · simpa using hmark.symm
    · decide
  · decide
  · decide
  · decide
  · simpa using Ne.symm hreturn
  all_goals
    rw [List.mem_append, not_or]
    exact ⟨by decide, notMem_hex _ _⟩

/-- There are **no carriage returns in quotation marks**. -/
theorem notMem_quoted (t : Text) : '\r' ∉ quoted t := by
  have hmark : quotationMark t ≠ '\r' := by
    unfold quotationMark
    split <;> decide
  have hchars : '\r' ∉ t.flatMap (quoteChar (quotationMark t)) := by
    rw [List.mem_flatMap]
    rintro ⟨c, -, hc⟩
    exact notMem_quoteChar hmark c hc
  rw [quoted, List.mem_append, List.mem_cons]
  rintro ((h | h) | h)
  · exact hmark h.symm
  · exact hchars h
  · exact hmark (List.mem_singleton.mp h).symm

/-! ### Raised characters -/

/-- A code point is that of a carriage return **if its character is one**. -/
theorem eq_of_ofNat_eq {n : Nat} (h : Char.ofNat n = '\r') : n = 13 := by
  by_cases hvalid : n.isValidChar
  · rw [← toNat_ofNat hvalid, h]
    rfl
  · rw [Char.ofNat, dif_neg hvalid] at h
    exact absurd h (by decide)

/-- Raising leads to a carriage return **from no other character**. -/
theorem notMem_upperChar {c : Char} (hc : c ≠ '\r') : '\r' ∉ upperChar c := by
  have hascii : ∀ n < 0x80, (Char.ofNat n).toUpper = '\r' → Char.ofNat n = '\r' := by decide +kernel
  have hexpansions : ∀ entry ∈ upperExpansions, 13 ∉ entry.2 := by decide +kernel
  have hruns : ∀ run ∈ upperRuns, 13 < run.first + run.shift := by decide +kernel
  rw [upperChar]
  split
  · next hsmall =>
    rw [List.mem_singleton]
    intro hupper
    rw [← Char.ofNat_toNat c] at hupper hc
    exact hc (hascii c.toNat hsmall hupper.symm)
  · next hlarge =>
    split
    · next letters hletters =>
      obtain ⟨front, back, htable, -⟩ := List.lookup_eq_some_iff.mp hletters
      have hentry : (c.toNat, letters) ∈ upperExpansions := by
        rw [htable]
        exact List.mem_append_right _ List.mem_cons_self
      rw [List.mem_map]
      rintro ⟨n, hn, hreturn⟩
      exact hexpansions _ hentry (eq_of_ofNat_eq hreturn ▸ hn)
    · rw [List.mem_singleton]
      intro hshift
      have hreturn := eq_of_ofNat_eq hshift.symm
      rw [shiftBy] at hreturn
      split at hreturn
      · next run hrun =>
        have hcovers := List.find?_some hrun
        have hfirst := (CaseRun.covers_iff.mp hcovers).1
        have hbeyond := hruns run (List.mem_of_find?_eq_some hrun)
        omega
      · omega

end Text

/-! ### Names -/

/-- There are no carriage returns in **identifiers**, as they are no word characters. -/
theorem notMem_identifierOf (t : Text) : '\r' ∉ identifierOf t := by
  have hall := (forall_mem_identifierOf (p := (· != '\r')) rfl t).mpr fun c _ hc => by
    rw [bne_iff_ne]
    rintro rfl
    exact absurd hc (by decide)
  exact fun hmem => absurd (hall _ hmem) (by decide)

/-- There are no carriage returns in the names of **classes**. -/
theorem notMem_classNameOf (t : Text) : '\r' ∉ classNameOf t := by
  have hpart : ∀ part ∈ Text.splitOn (· == '_') (identifierOf t), '\r' ∉ capitalised part := by
    intro part hpart hmem
    have hchars : ∀ c ∈ part, c ≠ '\r' := fun c hc heq =>
      notMem_identifierOf t (heq ▸ Text.mem_of_mem_splitOn hpart hc)
    cases part with
    | nil => exact absurd hmem List.not_mem_nil
    | cons c rest =>
        rw [List.forall_mem_cons] at hchars
        rcases List.mem_append.mp hmem with h | h
        · exact Text.notMem_upperChar hchars.1 h
        · exact hchars.2 _ h rfl
  have hall : (classNameOf t).all (· != '\r') = true := by
    rw [classNameOf, all_guardDigit rfl, List.all_eq_true]
    intro c hc
    obtain ⟨part, hmem, hcpart⟩ := List.mem_flatMap.mp hc
    rw [bne_iff_ne]
    rintro rfl
    exact hpart part (List.mem_filter.mp hmem).1 hcpart
  exact fun hmem => absurd (List.all_eq_true.mp hall _ hmem) (by decide)

/-- There are no carriage returns in the names of **tests**. -/
theorem notMem_of_mem_tests {scenarios : List Text} {test : Text × Text} (h : test ∈ tests scenarios) :
    '\r' ∉ test.1 := by
  obtain ⟨before, later, hsplit⟩ := List.append_of_mem h
  have hbase : '\r' ∉ testNameOf test.2 := by
    unfold testNameOf
    rw [List.mem_append, not_or]
    refine ⟨by decide, fun hmem => ?_⟩
    rcases Text.mem_lower hmem with ⟨c, hc, heq⟩ | hmem
    · have hreturn : c ≠ '\r' := by
        rintro rfl
        exact notMem_identifierOf test.2 hc
      exact lowerChar_ne (by decide) hreturn heq.symm
    · exact absurd hmem (by decide)
  rw [fst_eq_freeName_of_testsFor hsplit]
  rcases Text.freeName_eq_or ((before.map Prod.fst).reverse ++ []) (testNameOf test.2) "_" with h | ⟨n, h⟩
  · rwa [h]
  · rw [h, List.mem_append, List.mem_append, not_or, not_or]
    exact ⟨⟨hbase, by decide⟩, fun hmem => absurd (digits_ofNat n _ hmem) (by decide)⟩

/-- The parts of the **name of a base class** have only carriage returns of this name. -/
theorem notMem_splitBaseClass {name : Text} (h : '\r' ∉ name) :
    (∀ base ∈ (Generator.splitBaseClass name).1, '\r' ∉ base) ∧
      ∀ base ∈ (Generator.splitBaseClass name).2, '\r' ∉ base := by
  have hdots : '\r' ∉ name.map fun c => if c = ':' then '.' else c := by
    rw [List.mem_map]
    rintro ⟨c, hc, heq⟩
    split at heq
    · exact absurd heq (by decide)
    · exact h (heq ▸ hc)
  unfold Generator.splitBaseClass
  generalize (name.map fun c => if c = ':' then '.' else c) = dotted at hdots ⊢
  have hparts : ∀ c, (c ∈ (Text.splitLast (· == '.') dotted).1 → c ∈ dotted) ∧
      (c ∈ (Text.splitLast (· == '.') dotted).2 → c ∈ dotted) := by
    intro c
    unfold Text.splitLast
    refine ⟨fun hc => List.mem_of_mem_take ((List.dropLast_sublist _).subset hc), fun hc => ?_⟩
    exact List.mem_reverse.mp ((List.takeWhile_sublist _).subset (List.mem_reverse.mp hc))
  have hpresent : ∀ part : Text, '\r' ∉ part →
      ∀ base ∈ (if part.isEmpty then none else some part), '\r' ∉ base := by
    intro part hpart base hbase
    split at hbase
    · exact absurd hbase (by simp)
    · exact Option.some.inj hbase ▸ hpart
  exact ⟨hpresent _ fun hc => hdots ((hparts _).1 hc), hpresent _ fun hc => hdots ((hparts _).2 hc)⟩

/-! ### Modules -/

/-- A test module that has **no carriage returns** in what is written as it is. -/
structure TestModule.WithoutReturns (m : TestModule) : Prop where
  fileName : '\r' ∉ m.fileName
  className : '\r' ∉ m.className
  baseModule : ∀ base ∈ m.baseModule, '\r' ∉ base
  baseClass : ∀ base ∈ m.baseClass, '\r' ∉ base
  tests : ∀ test ∈ m.tests, '\r' ∉ test.1

namespace TestModule

variable {m : TestModule}

/-- There are no carriage returns in **two texts** if there are none in either. -/
theorem notMem_append {t u : Text} (ht : '\r' ∉ t) (hu : '\r' ∉ u) : '\r' ∉ t ++ u := fun hmem =>
  (List.mem_append.mp hmem).elim ht hu

/-- A path in quotation marks has no carriage returns. -/
theorem notMem_here (path : Text) : '\r' ∉ here path := by
  unfold here
  exact notMem_append (by decide) (Text.notMem_quoted path)

/-- The lines **above the class**. -/
theorem notMem_opening (h : m.WithoutReturns) : ∀ line ∈ m.opening, '\r' ∉ line := by
  have hclass : '\r' ∉ m.baseClass.getD [] := by
    cases hclass : m.baseClass with
    | none => exact List.not_mem_nil
    | some base => exact h.baseClass base hclass
  have hsteps : '\r' ∉ Text.join ", " (m.steps.map here) := by
    intro hmem
    rcases Text.mem_join hmem with hmem | ⟨step, hstep, hmem⟩
    · exact absurd hmem (by decide)
    · obtain ⟨path, -, rfl⟩ := List.mem_map.mp hstep
      exact notMem_here path hmem
  have hlanguages : '\r' ∉ (m.languagesFile.map here).getD "None" := by
    cases m.languagesFile with
    | none => decide
    | some path => exact notMem_here path
  have hskip : ∀ line ∈ (if m.skipReason.isSome then ["import pytest", ""] else [] : List Text), '\r' ∉ line := by
    split <;> decide
  unfold opening
  simp only [List.flatten_cons, List.flatten_nil, List.append_nil, List.forall_mem_append, List.forall_mem_cons,
    List.not_mem_nil, false_imp_iff, implies_true, and_true]
  refine ⟨⟨notMem_append (notMem_append (by decide) h.fileName) (by decide), by decide, by decide, by decide⟩, hskip,
    by decide, ?base, by decide, by decide, notMem_append (by decide) (notMem_here _),
    notMem_append (notMem_append (by decide) hsteps) (by decide), notMem_append (by decide) hlanguages,
    notMem_append (by decide) (Text.notMem_quoted _), by decide, by decide⟩
  case base =>
    split
    · next base hmodule =>
      rw [List.forall_mem_singleton]
      exact notMem_append (notMem_append (notMem_append (by decide) (h.baseModule base hmodule)) (by decide)) hclass
    · exact List.forall_mem_nil _

/-- The lines that **begin the class**. -/
theorem notMem_header (h : m.WithoutReturns) : ∀ line ∈ m.header, '\r' ∉ line := by
  unfold header
  simp only [List.flatten_cons, List.flatten_nil, List.append_nil, List.forall_mem_append, List.forall_mem_cons,
    List.not_mem_nil, false_imp_iff, implies_true, and_true]
  refine ⟨?skip, notMem_append (notMem_append (notMem_append (by decide) h.className) ?base) (by decide),
    notMem_append (by decide) (Text.notMem_quoted _)⟩
  case skip =>
    split
    · rw [List.forall_mem_singleton]
      exact notMem_append (notMem_append (by decide) (Text.notMem_quoted _)) (by decide)
    · exact List.forall_mem_nil _
  case base =>
    split
    · next base hclass => exact notMem_append (notMem_append (by decide) (h.baseClass base hclass)) (by decide)
    · exact List.not_mem_nil

/-- The lines of **one test**. -/
theorem notMem_testLines {test : Text × Text} (h : '\r' ∉ test.1) : ∀ line ∈ testLines test, '\r' ∉ line := by
  unfold testLines
  simp only [List.forall_mem_cons, List.not_mem_nil, false_imp_iff, implies_true, and_true]
  exact ⟨by decide, notMem_append (notMem_append (by decide) h) (by decide),
    notMem_append (notMem_append (by decide) (Text.notMem_quoted _)) (by decide)⟩

/-- **The source of a module has no carriage returns**, if there are none in what is written as it is. -/
theorem notMem_toText (h : m.WithoutReturns) : '\r' ∉ m.toText := by
  have hsetup : ∀ line ∈ (if m.hasSetup then setup else []), '\r' ∉ line := by
    split <;> decide +kernel
  have hteardown : ∀ line ∈ (if m.reportsUndefined then teardown else []), '\r' ∉ line := by
    split <;> decide +kernel
  have htests : ∀ line ∈ m.tests.flatMap testLines, '\r' ∉ line := by
    intro line hline
    obtain ⟨test, htest, hmem⟩ := List.mem_flatMap.mp hline
    exact notMem_testLines (h.tests test htest) line hmem
  have hlines : ∀ line ∈ m.opening ++ m.header ++ (if m.hasSetup then setup else []) ++
      (if m.reportsUndefined then teardown else []) ++ m.tests.flatMap testLines, '\r' ∉ line := by
    simp only [List.forall_mem_append]
    exact ⟨⟨⟨⟨notMem_opening h, notMem_header h⟩, hsetup⟩, hteardown⟩, htests⟩
  unfold toText
  rw [List.mem_flatMap]
  rintro ⟨line, hline, hmem⟩
  rcases List.mem_append.mp hmem with hmem | hmem
  · exact hlines line hline hmem
  · exact absurd hmem (by decide)

end TestModule

/-- **The source of a generated module has no carriage returns**, if there are none in the name of its specification and
in the name of the base class. -/
theorem Generator.notMem_testModule (g : Generator) {baseClass : Option Text} (document : Document)
    {specification : Path} (file : Path) (hname : '\r' ∉ specification.name)
    (hbase : ∀ name ∈ baseClass, '\r' ∉ name) :
    '\r' ∉ (g.testModule baseClass document specification file).toText := by
  have hparts : (∀ base ∈ ((baseClass.map splitBaseClass).getD (none, none)).1, '\r' ∉ base) ∧
      ∀ base ∈ ((baseClass.map splitBaseClass).getD (none, none)).2, '\r' ∉ base := by
    cases baseClass with
    | none => exact ⟨fun _ h => absurd h (by simp), fun _ h => absurd h (by simp)⟩
    | some name => exact notMem_splitBaseClass (hbase name rfl)
  exact TestModule.notMem_toText ⟨hname, notMem_classNameOf _, hparts.1, hparts.2, fun _ => notMem_of_mem_tests⟩

end PlainSpec
