import PlainSpec.Proofs.GeneratedModules
import PlainSpec.Proofs.ListedSpecifications
import PlainSpec.Proofs.SourceCharacters

/-!
# Generating modules again

A module is written only if its file does not say the same already. So where every module holds its text, generating
the modules once more writes nothing. Three things can stand against this. A carriage return is not read back as it was
written, so a text with one is never found in its file. Paths that differ may lead to one place, and then each module is
written over the other one every time. And an entry with wildcards may stand for more files after the modules have been
written.

Generating a module changes no other file. If its specification cannot be read as one, nothing at all is changed, and
what was generated before stays.

## Main results

* `Generator.generate_again`: a module that holds its text is not written again.
* `Generator.generateEach_eq_error`: where generating several modules fails, and what was generated then.
* `Generator.generateAll_again`: generating all modules twice, what one module changes, and what a fault leaves.
-/

namespace PlainSpec

namespace FileTree

variable {tree other : FileTree} {entries : List Text}

/-- Entries that **name files one by one**: they have no wildcards and lead to no folders. -/
def NamesFiles (tree : FileTree) (entries : List Text) : Prop :=
  ∀ entry ∈ entries, hasWildcards entry = false ∧ tree.hasFolder (Path.ofText entry) = false

/-- Entries that name files one by one **list their own paths**. -/
theorem mem_specifications_of_namesFiles (h : tree.NamesFiles entries) {entry : Text} (hentry : entry ∈ entries) :
    Path.ofText entry ∈ tree.specifications entries := by
  obtain ⟨hplain, hfile⟩ := h entry hentry
  refine mem_specifications.mpr ⟨entry, hentry, ?_⟩
  rw [specificationsOf_of_file hplain hfile]
  exact List.mem_singleton_self _

/-- They list the same files **in another tree**, if they name files one by one there as well. -/
theorem specifications_of_namesFiles (h : tree.NamesFiles entries) (hother : other.NamesFiles entries) :
    other.specifications entries = tree.specifications entries := by
  have hof : ∀ entry ∈ entries, other.specificationsOf entry = tree.specificationsOf entry := by
    intro entry hentry
    rw [specificationsOf_of_file (h entry hentry).1 (h entry hentry).2,
      specificationsOf_of_file (hother entry hentry).1 (hother entry hentry).2]
  rw [specifications, specifications, List.flatMap_congr hof]

end FileTree

namespace Generator

variable {g : Generator} {tree after : FileTree} {specification : Path} {m : GeneratedModule}
  {modules : List GeneratedModule}

/-! ### Texts that are read back -/

/-- A **base class** whose name has no carriage returns, if there is one. -/
def PlainBase (g : Generator) : Prop :=
  ∀ name, Datum.textSetting .notName g.baseClass = .ok (some name) → '\r' ∉ name

/-- What is rendered has **no carriage returns**. -/
theorem notMem_rendered (hbase : g.PlainBase) (hname : '\r' ∉ specification.name) {text : Text}
    (h : g.rendered tree specification = .ok text) : '\r' ∉ text := by
  obtain ⟨document, baseClass, -, hsetting, rfl⟩ := rendered_eq_ok h
  refine g.notMem_testModule document _ hname fun name hmem => hbase name ?_
  rw [hsetting, Option.mem_def.mp hmem]

/-- A file from which a text **is read** holds this text. -/
theorem contentOf_of_readText {file : Path} {text : Text} (h : tree.readText file = .ok text) :
    contentOf tree file = .ok text := by
  obtain ⟨content, hcontent, -⟩ := FileTree.readText_eq_ok.mp h
  obtain ⟨place, hplace, -⟩ := FileTree.read_eq_ok.mp hcontent
  rw [contentOf, if_pos (FileTree.hasPath_of_place hplace), h]

/-! ### Generating again -/

/-- **A module that holds its text is not written again.** -/
theorem generate_again (hbase : g.PlainBase) (hname : '\r' ∉ m.specification.name)
    (hfile : m.file = g.moduleFile m.specification) (h : g.HoldsText tree m) :
    g.generate tree m.specification = .ok ({ m with written := false }, tree) := by
  obtain ⟨text, hrendered, hread⟩ := h
  rw [FileTree.unifyLineBreaks_of_notMem (notMem_rendered hbase hname hrendered), hfile] at hread
  refine generate_eq_ok.mpr ⟨text, hrendered, store_eq_ok.mpr ⟨text, contentOf_of_readText hread, .inl ⟨rfl, ?_, rfl⟩⟩⟩
  rw [← hfile]

/-- **Several modules that hold their texts** are not written again. -/
theorem generateEach_again (hbase : g.PlainBase) (hnames : ∀ m ∈ modules, '\r' ∉ m.specification.name)
    (hfiles : ∀ m ∈ modules, m.file = g.moduleFile m.specification) (h : ∀ m ∈ modules, g.HoldsText tree m) :
    g.generateEach tree (modules.map (·.specification)) =
      (.ok (modules.map fun m => { m with written := false }), tree) := by
  induction modules with
  | nil => rfl
  | cons m others ih =>
      rw [List.forall_mem_cons] at hnames hfiles h
      rw [List.map_cons, List.map_cons]
      exact generateEach_cons_eq_ok.mpr ⟨_, tree, _, generate_again hbase hnames.1 hfiles.1 h.1,
        ih hnames.2 hfiles.2 h.2, rfl⟩

/-- Modules that **keep apart** when all are written: no two go to one place, and none goes to the place of a
specification. -/
structure Apart (after : FileTree) (modules : List GeneratedModule) : Prop where
  files : modules.Pairwise fun m n => after.place m.file ≠ after.place n.file
  specifications : ∀ m ∈ modules, ∀ n ∈ modules, after.place n.file ≠ after.place m.specification

/-- **Generating all modules twice**: if the entries name files one by one and the modules keep apart, nothing is
written the second time. -/
theorem generateAll_twice (hbase : g.PlainBase) {entries : List Text}
    (h : g.generateAll tree entries = (.ok modules, after)) (hentries : tree.NamesFiles entries)
    (hnames : ∀ m ∈ modules, '\r' ∉ m.specification.name) (hapart : Apart after modules) :
    g.generateAll after entries = (.ok (modules.map fun m => { m with written := false }), after) := by
  have hgenerated := generateEach_generated h
  have hholds : ∀ m ∈ modules, g.HoldsText after m := fun m hm =>
    hgenerated.holdsText hapart.specifications hapart.files hm
  -- the entries still name files one by one, as all of them were read
  have hstill : after.NamesFiles entries := by
    intro entry hentry
    have hmem := FileTree.mem_specifications_of_namesFiles hentries hentry
    rw [← hgenerated.specifications] at hmem
    obtain ⟨m, hm, hspecification⟩ := List.mem_map.mp hmem
    obtain ⟨text, hrendered, -⟩ := hholds m hm
    obtain ⟨content, hcontent⟩ := read_of_rendered hrendered
    exact ⟨(hentries entry hentry).1, FileTree.hasFolder_of_read (hspecification ▸ hcontent)⟩
  rw [generateAll, FileTree.specifications_of_namesFiles hentries hstill, ← hgenerated.specifications]
  exact generateEach_again hbase hnames hgenerated.files hholds

/-! ### What one module changes -/

/-- A module that is reported as **not written** leaves the tree as it is. -/
theorem eq_of_generate (h : g.generate tree specification = .ok (m, after)) (hwritten : m.written = false) :
    after = tree := by
  obtain ⟨text, -, hstore⟩ := generate_eq_ok.mp h
  obtain ⟨old, -, ⟨-, -, hafter⟩ | ⟨-, rfl, -⟩⟩ := store_eq_ok.mp hstore
  · exact hafter
  · exact absurd hwritten (by simp)

/-- A module is reported as written **exactly if what is in its file has changed**. -/
theorem written_iff (hbase : g.PlainBase) (h : g.generate tree specification = .ok (m, after))
    (hname : '\r' ∉ specification.name) :
    m.written = true ↔ contentOf after m.file ≠ contentOf tree m.file := by
  obtain ⟨-, -, place, text, hrendered, -, -, -, hread⟩ := generate_writes h
  obtain ⟨text', hrendered', hstore⟩ := generate_eq_ok.mp h
  obtain rfl := Except.ok.inj (hrendered.symm.trans hrendered')
  rw [FileTree.unifyLineBreaks_of_notMem (notMem_rendered hbase hname hrendered)] at hread
  obtain ⟨old, hold, ⟨rfl, rfl, rfl⟩ | ⟨hchanged, rfl, -⟩⟩ := store_eq_ok.mp hstore
  · simp
  · rw [contentOf_of_readText hread, hold]
    simp [Ne.symm hchanged]

/-! ### Faults -/

/-- Where generating several modules **fails**, one of them does, and those in front of it were generated. The induction
is on the specifications. -/
theorem generateEach_eq_error {specifications : List Path} {failure : Failure}
    (h : g.generateEach tree specifications = (.error failure, after)) :
    ∃ earlier specification later modules, specifications = earlier ++ specification :: later ∧
      g.generateEach tree earlier = (.ok modules, after) ∧ g.generate after specification = .error failure := by
  induction specifications generalizing tree with
  | nil => exact absurd (congrArg Prod.fst h) (by simp [generateEach])
  | cons specification rest ih =>
      rw [generateEach] at h
      cases hgenerate : g.generate tree specification with
      | error failure' =>
          rw [hgenerate] at h
          obtain ⟨hfailure, rfl⟩ := Prod.mk.inj h
          obtain rfl := Except.error.inj hfailure
          exact ⟨[], specification, rest, [], rfl, rfl, hgenerate⟩
      | ok generated =>
          obtain ⟨m, between⟩ := generated
          rcases hrest : g.generateEach between rest with ⟨failure' | others, last⟩
          · simp only [hgenerate, hrest, Except.map] at h
            obtain ⟨hfailure, rfl⟩ := Prod.mk.inj h
            obtain rfl := Except.error.inj hfailure
            obtain ⟨earlier, broken, later, modules, rfl, hearlier, hbroken⟩ := ih hrest
            exact ⟨specification :: earlier, broken, later, m :: modules, rfl,
              generateEach_cons_eq_ok.mpr ⟨m, between, modules, hgenerate, hearlier, rfl⟩, hbroken⟩
          · simp only [hgenerate, hrest, Except.map] at h
            exact absurd (congrArg Prod.fst h) (by simp)

/-- A setting that is no text fails **for this reason only**. -/
theorem textSetting_eq_error {unfit failure : Failure} {value : Option Datum}
    (h : Datum.textSetting unfit value = .error failure) : failure = unfit := by
  unfold Datum.textSetting at h
  split at h
  · exact absurd h (by simp)
  · split at h
    · exact (Except.error.inj h).symm
    · exact absurd h (by simp)
  · exact absurd h (by simp)

/-- Where generating a module fails **for a fault of its specification**, this was found in reading it, before anything
was written. -/
theorem ofFile_of_generate_eq_error {fault : SpecFault} {file : Option Path}
    (h : g.generate tree specification = .error (.specification fault file)) :
    Document.ofFile g.languages.table tree specification = .error (.specification fault file) := by
  rw [generate_eq] at h
  rcases cases_of_bind_eq_error h with hrendered | ⟨text, -, hstored⟩
  · rcases cases_of_bind_eq_error hrendered with hdocument | ⟨document, -, hrest⟩
    · exact hdocument
    rcases cases_of_bind_eq_error hrest with hsetting | ⟨baseClass, -, hreturned⟩
    · exact absurd (textSetting_eq_error hsetting) (by simp)
    · exact absurd hreturned (by simp [pure, Except.pure])
  · cases hstore : store tree specification (g.moduleFile specification) text with
    | error fault => exact absurd hstored (by simp [hstore, Except.mapError])
    | ok stored => exact absurd hstored (by simp [hstore, Except.mapError])

/-! ### All modules -/

/-- **Generating again writes nothing, and generating writes nothing else.** For a base class without carriage returns
in its name:

* If all modules were generated for entries that name files one by one, if there are no carriage returns in the names of
  the specifications and the modules keep apart, then generating all modules once more succeeds, reports of each module
  that it was not written, and leaves the tree as it is.
* Generating one module changes no file but its own, and nothing at all unless it reports the module as written. It does
  so exactly if what is in the file has changed, where a file that is not there counts as an empty one.
* If generating all modules fails for a fault of a specification, the fault was found in reading this specification, and
  the tree is as generating the modules before it has left it. If these keep apart, they all hold their texts. -/
theorem generateAll_again (g : Generator) (hbase : g.PlainBase) :
    (∀ tree entries modules after, g.generateAll tree entries = (.ok modules, after) → tree.NamesFiles entries →
        (∀ m ∈ modules, '\r' ∉ m.specification.name) → Apart after modules →
        g.generateAll after entries = (.ok (modules.map fun m => { m with written := false }), after)) ∧
      (∀ tree specification m after, g.generate tree specification = .ok (m, after) →
        m.specification = specification ∧ m.file = g.moduleFile specification ∧
        (∃ place, after.place m.file = .ok place ∧ FileTree.SameFilesBut place tree after) ∧
        (m.written = false → after = tree) ∧
        ('\r' ∉ specification.name →
          (m.written = true ↔ contentOf after m.file ≠ contentOf tree m.file))) ∧
      ∀ tree entries fault file after, g.generateAll tree entries = (.error (.specification fault file), after) →
        ∃ earlier specification later modules, tree.specifications entries = earlier ++ specification :: later ∧
          Document.ofFile g.languages.table after specification = .error (.specification fault file) ∧
          g.generateEach tree earlier = (.ok modules, after) ∧
          (Apart after modules → ∀ m ∈ modules, g.HoldsText after m) := by
  refine ⟨?_, ?_, ?_⟩
  · intro tree entries modules after h hentries hnames hapart
    exact generateAll_twice hbase h hentries hnames hapart
  · intro tree specification m after h
    obtain ⟨hspecification, hfile, place, -, -, -, hsame, hplace, -⟩ := generate_writes h
    exact ⟨hspecification, hfile, ⟨place, hplace, hsame⟩, eq_of_generate h, written_iff hbase h⟩
  · intro tree entries fault file after h
    obtain ⟨earlier, specification, later, modules, hspecifications, hearlier, hbroken⟩ := generateEach_eq_error h
    refine ⟨earlier, specification, later, modules, hspecifications, ofFile_of_generate_eq_error hbroken, hearlier,
      fun hapart m hm => ?_⟩
    exact (generateEach_generated hearlier).holdsText hapart.specifications hapart.files hm

/-- Two specifications with **different stems** get modules that are written once and not again. -/
theorem generateAll_again_stems :
    ∃ modules after, besideGenerator.generateAll (pairTree "one.txt" "two.txt") ["one.txt", "two.txt"] =
        (.ok modules, after) ∧
      modules.map (·.written) = [true, true] ∧
      besideGenerator.generateAll after ["one.txt", "two.txt"] =
        (.ok (modules.map fun m => { m with written := false }), after) := by
  have hbase : besideGenerator.PlainBase := fun name hname => absurd (Except.ok.inj hname) (by simp)
  have hmodules : (besideGenerator.generateAll (pairTree "one.txt" "two.txt")
      ["one.txt", "two.txt"]).1.toOption = some
        [⟨⟨["one.txt"]⟩, ⟨["test_one.py"]⟩, true⟩, ⟨⟨["two.txt"]⟩, ⟨["test_two.py"]⟩, true⟩] := by
    decide +kernel
  have hentries : (pairTree "one.txt" "two.txt").NamesFiles ["one.txt", "two.txt"] := by
    unfold FileTree.NamesFiles
    decide +kernel
  refine ⟨_, _, generateAll_eq_ok hmodules, rfl, ?_⟩
  exact (generateAll_again besideGenerator hbase).1 _ _ _ _ (generateAll_eq_ok hmodules) hentries
    (by decide +kernel) ⟨by decide +kernel, by decide +kernel⟩

/-- A tree with two specifications that have **one stem**, a folder beside them, and a specification whose name has a
**star**. -/
def aliasTree : FileTree :=
  ⟨[(["a.txt"], .file (.text "Scenario: One\nGiven x")), (["a.feature"], .file (.text "Scenario: Two\nGiven y")),
    (["d"], .folder), (["t*.py"], .file (.text "Scenario: Three\nGiven z"))]⟩

/-- A generator whose **base class** has a carriage return in its name. -/
def brokenGenerator : Generator := { besideGenerator with baseClass := some (.text "m.B\r") }

/-- Once the module for a name with a star has been generated, it **is listed under this name** too. -/
theorem specifications_star :
    aliasTree.specifications ["t*.py"] = [⟨["t*.py"]⟩] ∧
      (besideGenerator.generateAll aliasTree ["t*.py"]).2.specifications ["t*.py"] =
        [⟨["t*.py"]⟩, ⟨["test_t.py"]⟩] := by
  have hfirst : aliasTree.specifications ["t*.py"] = [⟨["t*.py"]⟩] := by cbv
  refine ⟨hfirst, ?_⟩
  rw [generateAll, hfirst]
  generalize hafter : (besideGenerator.generateEach aliasTree [⟨["t*.py"]⟩]).2 = after
  have hfound : (after.throughAll [[]] ["t*.py"]).filter (!·.isEmpty) = (["test_t.py", "t*.py"] : List Text) := by
    rw [← hafter]
    decide +kernel
  have hsorted : (["test_t.py", "t*.py"] : List Text).mergeSort Text.before = (["t*.py", "test_t.py"] : List Text) := by
    cbv
  have hexpand : after.expand "t*.py" =
      (((after.throughAll [[]] ["t*.py"]).filter (!·.isEmpty)).mergeSort Text.before).map Path.ofText :=
    @FileTree.expand_eq after "t*.py" [] ["t*.py"] (by decide) (by decide) (by decide)
  rw [FileTree.specifications, List.flatMap_cons, List.flatMap_nil, List.append_nil, FileTree.specificationsOf,
    if_pos (by decide), hexpand, hfound, hsorted]
  decide +kernel

/-- Modules whose **paths differ but lead to one place** are written again every time, and so is a module with a carriage
return in its base class. The module for a name with a star is taken for a specification the second time. -/
theorem written_aliasTree :
    let aliases : List Text := ["a.txt", "d/../a.feature"]
    let written : List GeneratedModule := [⟨⟨["a.txt"]⟩, ⟨["test_a.py"]⟩, true⟩,
      ⟨⟨["d", "..", "a.feature"]⟩, ⟨["d", "..", "test_a.py"]⟩, true⟩]
    (besideGenerator.generateAll aliasTree aliases).1.toOption = some written ∧
      (besideGenerator.generateAll (besideGenerator.generateAll aliasTree aliases).2 aliases).1.toOption =
        some written ∧
      (brokenGenerator.generateAll aliasTree ["a.txt"]).1.toOption =
        some [⟨⟨["a.txt"]⟩, ⟨["test_a.py"]⟩, true⟩] ∧
      (brokenGenerator.generateAll (brokenGenerator.generateAll aliasTree ["a.txt"]).2 ["a.txt"]).1.toOption =
        some [⟨⟨["a.txt"]⟩, ⟨["test_a.py"]⟩, true⟩] ∧
      (besideGenerator.generateAll aliasTree ["t*.py"]).1.toOption =
        some [⟨⟨["t*.py"]⟩, ⟨["test_t.py"]⟩, true⟩] ∧
      (besideGenerator.generateAll aliasTree ["t*.py"]).2.specifications ["t*.py"] =
        [⟨["t*.py"]⟩, ⟨["test_t.py"]⟩] := by
  refine ⟨by decide +kernel, by decide +kernel, by decide +kernel, by decide +kernel, ?_, specifications_star.2⟩
  rw [generateAll, specifications_star.1]
  decide +kernel

end Generator

end PlainSpec
