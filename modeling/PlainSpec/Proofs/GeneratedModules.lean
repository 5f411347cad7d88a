import Mathlib.Data.List.Pairwise
import PlainSpec.Proofs.WhiteSpace
import PlainSpec.Proofs.WrittenFiles
import PlainSpec.TestModule.Basic

/-!
# Generated modules

Modules are generated one after the other, each from its specification as it is found then. Writing a module
leaves all other files alone, so its file holds the text for the specification at the end, unless a later module
goes to the same place or some module is written over the specification.

The file of a module is named for the stem of its specification, which has lost its suffix, its punctuation and
its capitals. So specifications may share a file, and then only the text for the last one is left.

## Main results

* `Generator.moduleFile_eq_iff`: which specifications share the file of their module.
* `Generator.generate_writes`: what generating one module does.
* `Generator.generateEach_generated`: what generating several modules does.
* `Generator.generateAll_generated`: which modules hold their texts after all were generated.
-/

namespace PlainSpec

namespace Generator

variable {g : Generator} {tree other before between after : FileTree} {specification : Path}
  {m : GeneratedModule}

/-! ### The file of a module -/

/-- The **folder** into which the module for a specification goes. -/
def folderFor (g : Generator) (specification : Path) : Path := g.outputFolder.getD specification.parent

/-- The **name of the file** of the module for a specification. -/
def fileNameFor (specification : Path) : Text :=
  "test_" ++ Text.lower (identifierOf specification.stem) ++ ".py"

theorem moduleFile_eq (g : Generator) (specification : Path) :
    g.moduleFile specification = (g.folderFor specification).append ⟨[fileNameFor specification]⟩ :=
  rfl

/-- The name of a file is not the way **up**. -/
theorem fileNameFor_ne (specification : Path) : fileNameFor specification ≠ ['.', '.'] := by
  intro h
  unfold fileNameFor at h
  exact absurd (congrArg List.head? h) (by simp)

/-- **Two files have the same name** exactly if the stems give the same identifier in lower case. -/
theorem fileNameFor_eq_iff (a b : Path) : fileNameFor a = fileNameFor b ↔
    Text.lower (identifierOf a.stem) = Text.lower (identifierOf b.stem) := by
  unfold fileNameFor
  rw [List.append_left_inj, List.append_right_inj]

/-- **Two specifications share the file of their module** exactly if they share the folder it goes to and
their stems give the same identifier in lower case. -/
theorem moduleFile_eq_iff (g : Generator) (a b : Path) :
    g.moduleFile a = g.moduleFile b ↔ g.folderFor a = g.folderFor b ∧
      Text.lower (identifierOf a.stem) = Text.lower (identifierOf b.stem) := by
  rw [← fileNameFor_eq_iff, moduleFile_eq, moduleFile_eq, Path.append, Path.append, Path.mk.injEq,
    List.append_singleton_inj, ← Path.mk.injEq]

/-- Two modules **go to the same place** exactly if their folders lead to the same place and their files have
the same name. -/
theorem place_moduleFile_eq_iff {a b : Path} {place place' : List Text}
    (ha : tree.place (g.moduleFile a) = .ok place) (hb : tree.place (g.moduleFile b) = .ok place') :
    tree.place (g.moduleFile a) = tree.place (g.moduleFile b) ↔
      tree.place (g.folderFor a) = tree.place (g.folderFor b) ∧
        Text.lower (identifierOf a.stem) = Text.lower (identifierOf b.stem) := by
  obtain ⟨folder, hfolder, -, -, rfl⟩ := (FileTree.place_append_eq_ok (fileNameFor_ne a)).mp ha
  obtain ⟨folder', hfolder', -, -, rfl⟩ := (FileTree.place_append_eq_ok (fileNameFor_ne b)).mp hb
  rw [ha, hb, folderFor, folderFor, hfolder, hfolder', Except.ok.injEq, Except.ok.injEq,
    List.append_singleton_inj, fileNameFor_eq_iff]

/-! ### One module -/

/-- The text that is **rendered for a specification** as it is found in a tree. -/
def rendered (g : Generator) (tree : FileTree) (specification : Path) : Except Failure Text := do
  let document ← Document.ofFile g.languages.table tree specification
  let baseClass ← Datum.textSetting .notName g.baseClass
  return (g.testModule baseClass document specification (g.moduleFile specification)).toText

/-- Rendering reads **nothing but the specification**. -/
theorem rendered_congr (h : tree.readText specification = other.readText specification) :
    g.rendered tree specification = g.rendered other specification := by
  rw [rendered, rendered, Document.ofFile, Document.ofFile, h]

/-- What is **rendered** is the source of the module for the document in the specification. -/
theorem rendered_eq_ok {text : Text} (h : g.rendered tree specification = .ok text) :
    ∃ document baseClass, Document.ofFile g.languages.table tree specification = .ok document ∧
      Datum.textSetting .notName g.baseClass = .ok baseClass ∧
      text = (g.testModule baseClass document specification (g.moduleFile specification)).toText := by
  obtain ⟨document, hdocument, h⟩ := exists_of_bind_eq_ok h
  obtain ⟨baseClass, hbase, h⟩ := exists_of_bind_eq_ok h
  exact ⟨document, baseClass, hdocument, hbase, (Except.ok.inj h).symm⟩

/-- What is rendered for a specification comes from a **file that was read**. -/
theorem read_of_rendered {text : Text} (h : g.rendered tree specification = .ok text) :
    ∃ content, tree.read specification = .ok content := by
  obtain ⟨document, -, hdocument, -, -⟩ := rendered_eq_ok h
  rw [Document.ofFile, FileTree.readText] at hdocument
  cases hread : tree.read specification with
  | error fault => exact absurd hdocument (by simp [hread, Except.bind])
  | ok content => exact ⟨content, rfl⟩

/-- The **first line** of a module says from which specification it was generated. -/
def firstLine (specification : Path) : Text :=
  "# This code was generated by specbind from " ++ specification.name ++ "."

/-- What is rendered begins with **its first line**. -/
theorem rendered_firstLine {text : Text} (h : g.rendered tree specification = .ok text) :
    ∃ rest, text = firstLine specification ++ '\n' :: rest := by
  obtain ⟨document, baseClass, -, -, rfl⟩ := rendered_eq_ok h
  exact ⟨_, List.append_assoc _ ['\n'] _⟩

/-- What is rendered is **not empty**. -/
theorem rendered_ne_nil {text : Text} (h : g.rendered tree specification = .ok text) : text ≠ [] := by
  obtain ⟨rest, rfl⟩ := rendered_firstLine h
  simp

/-- The first line is **read back** from what was rendered, if the name in it is unbroken. -/
theorem takeWhile_rendered {text : Text} (h : g.rendered tree specification = .ok text)
    (hunbroken : Text.Unbroken specification.name) :
    (FileTree.unifyLineBreaks text).takeWhile (!isLineBreak ·) = firstLine specification := by
  obtain ⟨rest, rfl⟩ := rendered_firstLine h
  have hline : Text.Unbroken (firstLine specification) := by
    unfold firstLine
    rw [Text.unbroken_append, Text.unbroken_append]
    exact ⟨⟨by decide, hunbroken⟩, by decide⟩
  have hreturn : '\r' ∉ firstLine specification ++ ['\n'] := by
    rw [List.mem_append, not_or]
    exact ⟨fun hmem => absurd (hline _ hmem) (by decide), by decide⟩
  rw [List.append_cons, FileTree.unifyLineBreaks_append hreturn, List.append_assoc,
    List.takeWhile_append_of_pos fun c hc => by rw [hline c hc]; rfl]
  exact List.append_nil _

/-- What is rendered for specifications with **different names** is different, also when it is read back. -/
theorem unifyLineBreaks_rendered_ne {a b : Path} {text text' : Text} (hname : a.name ≠ b.name)
    (ha : Text.Unbroken a.name) (hb : Text.Unbroken b.name) (htext : g.rendered tree a = .ok text)
    (htext' : g.rendered tree b = .ok text') :
    FileTree.unifyLineBreaks text ≠ FileTree.unifyLineBreaks text' := by
  intro h
  have hlines : firstLine a = firstLine b := by
    rw [← takeWhile_rendered htext ha, h, takeWhile_rendered htext' hb]
  unfold firstLine at hlines
  rw [List.append_left_inj, List.append_right_inj] at hlines
  exact hname hlines

/-- The text **in the file** of a module before it is stored; where there is no file, nothing. -/
def contentOf (tree : FileTree) (file : Path) : Except FileFault Text :=
  if tree.hasPath file then tree.readText file else .ok []

/-- A text is stored **by writing it**, unless the file says the same already. -/
theorem store_eq_ok {file : Path} {text : Text} : store tree specification file text = .ok (m, after) ↔
    ∃ old, contentOf tree file = .ok old ∧
      ((old = text ∧ m = ⟨specification, file, false⟩ ∧ after = tree) ∨
        (old ≠ text ∧ m = ⟨specification, file, true⟩ ∧ tree.put file (.text text) = .ok after)) := by
  have hstore : store tree specification file text = (contentOf tree file).bind fun old =>
      if old = text then .ok (⟨specification, file, false⟩, tree)
      else (tree.put file (.text text)).map (⟨specification, file, true⟩, ·) := by
    unfold store contentOf
    split
    · cases tree.readText file <;> rfl
    · rfl
  rw [hstore]
  cases contentOf tree file with
  | error fault => simp [Except.bind]
  | ok old =>
      by_cases hsame : old = text
      · simp [Except.bind, hsame, @eq_comm _ m, @eq_comm _ after]
      · cases tree.put file (.text text) <;>
          simp [Except.bind, Except.map, hsame, @eq_comm _ m, @eq_comm _ after]

/-- A file **that holds a text** is there, and this is what is read from it. -/
theorem readText_of_contentOf {file : Path} {text : Text} (htext : text ≠ [])
    (h : contentOf tree file = .ok text) : tree.readText file = .ok text := by
  unfold contentOf at h
  split at h
  · exact h
  · exact absurd (Except.ok.inj h).symm htext

/-- What is stored is **at one place** of the tree, and is read from there. -/
theorem store_keeps {folder : Path} {name text : Text} (hname : name ≠ ['.', '.']) (htext : text ≠ [])
    (h : store tree specification (folder.append ⟨[name]⟩) text = .ok (m, after)) :
    m.specification = specification ∧ m.file = folder.append ⟨[name]⟩ ∧
      ∃ place, FileTree.Keeps [place] tree after ∧ FileTree.SameFilesBut place tree after ∧
        after.place m.file = .ok place ∧ after.readText m.file = .ok (FileTree.unifyLineBreaks text) := by
  obtain ⟨old, hold, ⟨rfl, rfl, rfl⟩ | ⟨-, rfl, hput⟩⟩ := store_eq_ok.mp h
  · have hread := readText_of_contentOf htext hold
    obtain ⟨content, hcontent, htext⟩ := FileTree.readText_eq_ok.mp hread
    obtain ⟨place, hplace, -⟩ := FileTree.read_eq_ok.mp hcontent
    rw [FileTree.unifyLineBreaks_textOf htext]
    exact ⟨rfl, rfl, place, .refl _ _, fun _ _ _ => Iff.rfl, hplace, hread⟩
  · obtain ⟨place, hkeeps, hsame, hplace, hnode⟩ := FileTree.put_keeps hname hput
    exact ⟨rfl, rfl, place, hkeeps, hsame, hplace, FileTree.readText_eq_ok.mpr
      ⟨.text text, FileTree.read_eq_ok.mpr ⟨place, hplace, hnode⟩, rfl⟩⟩

/-- A module is generated by **rendering and storing** its source. -/
theorem generate_eq (g : Generator) (tree : FileTree) (specification : Path) :
    g.generate tree specification = (g.rendered tree specification).bind fun text =>
      (store tree specification (g.moduleFile specification) text).mapError .file := by
  rw [generate, rendered]
  cases Document.ofFile g.languages.table tree specification with
  | error failure => rfl
  | ok document => cases Datum.textSetting .notName g.baseClass <;> rfl

/-- A module is generated **exactly if** its source is rendered and stored. -/
theorem generate_eq_ok : g.generate tree specification = .ok (m, after) ↔
    ∃ text, g.rendered tree specification = .ok text ∧
      store tree specification (g.moduleFile specification) text = .ok (m, after) := by
  rw [generate_eq]
  cases g.rendered tree specification with
  | error failure => simp [Except.bind]
  | ok text =>
      cases hstore : store tree specification (g.moduleFile specification) text <;>
        simp [hstore, Except.bind, Except.mapError]

/-- **Generating a module** puts what is rendered for its specification at one place and keeps all others. -/
theorem generate_writes (h : g.generate tree specification = .ok (m, after)) :
    m.specification = specification ∧ m.file = g.moduleFile specification ∧
      ∃ place text, g.rendered tree specification = .ok text ∧ FileTree.Keeps [place] tree after ∧
        FileTree.SameFilesBut place tree after ∧ after.place m.file = .ok place ∧
        after.readText m.file = .ok (FileTree.unifyLineBreaks text) := by
  obtain ⟨text, hrendered, hstore⟩ := generate_eq_ok.mp h
  obtain ⟨hspecification, hfile, place, hwritten⟩ :=
    store_keeps (fileNameFor_ne specification) (rendered_ne_nil hrendered) hstore
  exact ⟨hspecification, hfile, place, text, hrendered, hwritten⟩

/-! ### All modules -/

/-- A module **holds its text** if what is rendered for its specification is read from its file. -/
def HoldsText (g : Generator) (tree : FileTree) (m : GeneratedModule) : Prop :=
  ∃ text, g.rendered tree m.specification = .ok text ∧
    tree.readText m.file = .ok (FileTree.unifyLineBreaks text)

/-- Two modules that **hold their texts** go to places of their own if their specifications have different
names. -/
theorem HoldsText.place_ne {n : GeneratedModule} (hm : g.HoldsText tree m) (hn : g.HoldsText tree n)
    (hname : m.specification.name ≠ n.specification.name) (hmname : Text.Unbroken m.specification.name)
    (hnname : Text.Unbroken n.specification.name) : tree.place m.file ≠ tree.place n.file := by
  obtain ⟨text, htext, hread⟩ := hm
  obtain ⟨text', htext', hread'⟩ := hn
  intro hplace
  have hsame := (FileTree.readText_of_place hplace.symm hread).symm.trans hread'
  exact unifyLineBreaks_rendered_ne hname hmname hnname htext htext' (Except.ok.inj hsame)

/-- How a tree stands **after modules were generated** for specifications, one after the other. -/
structure Generated (g : Generator) (before : FileTree) (specifications : List Path)
    (modules : List GeneratedModule) (after : FileTree) : Prop where
  /-- There is **one module for each specification**, in order. -/
  specifications : modules.map (·.specification) = specifications
  /-- The file of a module is **the one for its specification**. -/
  files : ∀ m ∈ modules, m.file = g.moduleFile m.specification
  /-- The file of each module is **there**. -/
  placed : ∀ m ∈ modules, ∃ place, after.place m.file = .ok place
  /-- A path still leads **where it led** before. -/
  places : ∀ path place, before.place path = .ok place → after.place path = .ok place
  /-- A file that is **not the file of a module** is as it was. -/
  kept : ∀ path content, before.read path = .ok content →
    (∀ m ∈ modules, after.place m.file ≠ after.place path) → after.read path = .ok content
  /-- The place of a module holds **what is rendered for its specification**, if no later module goes there and
  no module from this one on goes to the place of the specification. -/
  held : ∀ earlier m later, modules = earlier ++ m :: later →
    (∀ n ∈ later, after.place n.file ≠ after.place m.file) →
    (∀ n ∈ m :: later, after.place n.file ≠ after.place m.specification) →
    ∃ text, g.rendered after m.specification = .ok text ∧ ∀ path, after.place path = after.place m.file →
      after.readText path = .ok (FileTree.unifyLineBreaks text)

namespace Generated

variable {specifications : List Path} {modules : List GeneratedModule}

/-- **Nothing is generated** for no specifications. -/
theorem nil (g : Generator) (tree : FileTree) : g.Generated tree [] [] tree where
  specifications := rfl
  files := by simp
  placed := by simp
  places := fun _ _ h => h
  kept := fun _ _ h _ => h
  held := by simp

/-- **One module first**, then the others. -/
theorem cons (h : g.generate tree specification = .ok (m, between))
    (hrest : g.Generated between specifications modules after) :
    g.Generated tree (specification :: specifications) (m :: modules) after := by
  obtain ⟨rfl, hfile, place, text, hrendered, hkeeps, -, hplace, hread⟩ := generate_writes h
  have hafter : after.place m.file = .ok place := hrest.places _ _ hplace
  have hkept : ∀ path content, tree.read path = .ok content →
      (∀ n ∈ m :: modules, after.place n.file ≠ after.place path) → after.read path = .ok content := by
    intro path content hcontent helsewhere
    rw [List.forall_mem_cons] at helsewhere
    refine hrest.kept path content (hkeeps.read hcontent fun written hwritten hpath => ?_) helsewhere.2
    obtain rfl := List.mem_singleton.mp hwritten
    exact helsewhere.1 (hafter.trans (hrest.places _ _ hpath).symm)
  refine ⟨?_, ?_, ?_, ?_, hkept, ?_⟩
  · rw [List.map_cons, hrest.specifications]
  · exact List.forall_mem_cons.mpr ⟨hfile, hrest.files⟩
  · exact List.forall_mem_cons.mpr ⟨⟨place, hafter⟩, hrest.placed⟩
  · exact fun path target hpath => hrest.places _ _ (hkeeps.place hpath)
  · rintro (_ | ⟨first, earlier⟩) m' later hmodules hlater hspecification
    · obtain ⟨rfl, rfl⟩ := List.cons.inj hmodules
      refine ⟨text, ?_, fun path hpath => FileTree.readText_of_place hpath ?_⟩
      · obtain ⟨content, hcontent⟩ := read_of_rendered hrendered
        rw [← hrendered]
        refine rendered_congr ?_
        rw [FileTree.readText, FileTree.readText, hcontent, hkept _ content hcontent hspecification]
      · obtain ⟨content, hcontent, htext⟩ := FileTree.readText_eq_ok.mp hread
        exact FileTree.readText_eq_ok.mpr ⟨content, hrest.kept _ content hcontent hlater, htext⟩
    · exact hrest.held earlier m' later (List.cons.inj hmodules).2 hlater hspecification

/-- Two modules **have one file** exactly if their folders are the same and the stems of their specifications
give the same identifier in lower case. -/
theorem file_eq_iff (h : g.Generated before specifications modules after) {n : GeneratedModule}
    (hm : m ∈ modules) (hn : n ∈ modules) : m.file = n.file ↔
      g.folderFor m.specification = g.folderFor n.specification ∧
        Text.lower (identifierOf m.specification.stem) = Text.lower (identifierOf n.specification.stem) := by
  rw [h.files m hm, h.files n hn, moduleFile_eq_iff]

/-- Two modules **go to one place** exactly if their folders do and the stems of their specifications give the
same identifier in lower case. -/
theorem place_eq_iff (h : g.Generated before specifications modules after) {n : GeneratedModule}
    (hm : m ∈ modules) (hn : n ∈ modules) : after.place m.file = after.place n.file ↔
      after.place (g.folderFor m.specification) = after.place (g.folderFor n.specification) ∧
        Text.lower (identifierOf m.specification.stem) = Text.lower (identifierOf n.specification.stem) := by
  obtain ⟨place, hplace⟩ := h.placed m hm
  obtain ⟨place', hplace'⟩ := h.placed n hn
  rw [h.files m hm] at hplace ⊢
  rw [h.files n hn] at hplace' ⊢
  exact place_moduleFile_eq_iff hplace hplace'

/-- **Every module holds its text** if all modules go to places of their own and none goes to the place of a
specification. -/
theorem holdsText (h : g.Generated before specifications modules after)
    (hspecifications : ∀ m ∈ modules, ∀ n ∈ modules, after.place n.file ≠ after.place m.specification)
    (hplaces : modules.Pairwise fun m n => after.place m.file ≠ after.place n.file)
    (hm : m ∈ modules) : g.HoldsText after m := by
  obtain ⟨earlier, later, rfl⟩ := List.append_of_mem hm
  have hlater := (List.pairwise_cons.mp (List.pairwise_append.mp hplaces).2.1).1
  obtain ⟨text, hrendered, hread⟩ := h.held earlier m later rfl (fun n hn => (hlater n hn).symm)
    fun n hn => hspecifications m hm n (List.mem_append_right earlier hn)
  exact ⟨text, hrendered, hread m.file rfl⟩

end Generated

/-- Modules are generated **one first, then the others**. -/
theorem generateEach_cons_eq_ok {rest : List Path} {modules : List GeneratedModule} :
    g.generateEach tree (specification :: rest) = (.ok modules, after) ↔
      ∃ m between others, g.generate tree specification = .ok (m, between) ∧
        g.generateEach between rest = (.ok others, after) ∧ modules = m :: others := by
  rw [generateEach]
  cases g.generate tree specification with
  | error failure => simp
  | ok generated =>
      obtain ⟨m, between⟩ := generated
      rcases hrest : g.generateEach between rest with ⟨failure | others, last⟩ <;>
        simp [hrest, Except.map, eq_comm, and_comm]

/-- Generating **one module after the other**. The induction is on the specifications that are left. -/
theorem generateEach_generated {specifications : List Path} {modules : List GeneratedModule}
    (h : g.generateEach tree specifications = (.ok modules, after)) :
    g.Generated tree specifications modules after := by
  induction specifications generalizing tree modules with
  | nil =>
      obtain ⟨hmodules, rfl⟩ := Prod.mk.inj h
      obtain rfl := Except.ok.inj hmodules
      exact .nil g tree
  | cons specification rest ih =>
      obtain ⟨m, between, others, hgenerate, hrest, rfl⟩ := generateEach_cons_eq_ok.mp h
      exact .cons hgenerate (ih hrest)

/-- Generating **succeeds** if modules come out of it. -/
theorem generateAll_eq_ok {entries : List Text} {modules : List GeneratedModule}
    (h : (g.generateAll tree entries).1.toOption = some modules) :
    g.generateAll tree entries = (.ok modules, (g.generateAll tree entries).2) := by
  generalize g.generateAll tree entries = outcome at h ⊢
  obtain ⟨_ | others, after⟩ := outcome
  · exact absurd h (by simp [Except.toOption])
  · obtain rfl := Option.some.inj h
    rfl

/-- **What is in the files after all modules were generated.** Each place holds the text for the last module
that went there. Two modules have one file, or go to one place, exactly if their folders do and the stems of
their specifications give the same identifier in lower case. If no two modules go to one place and none is
written over a specification, every module holds its text; of two at one place, for specifications with
different names, one does not. -/
theorem generateAll_generated {entries : List Text} {modules : List GeneratedModule}
    (h : g.generateAll tree entries = (.ok modules, after)) :
    g.Generated tree (tree.specifications entries) modules after ∧
      (∀ m ∈ modules, ∀ n ∈ modules, m.file = n.file ↔
        g.folderFor m.specification = g.folderFor n.specification ∧
          Text.lower (identifierOf m.specification.stem) = Text.lower (identifierOf n.specification.stem)) ∧
      (∀ m ∈ modules, ∀ n ∈ modules, after.place m.file = after.place n.file ↔
        after.place (g.folderFor m.specification) = after.place (g.folderFor n.specification) ∧
          Text.lower (identifierOf m.specification.stem) = Text.lower (identifierOf n.specification.stem)) ∧
      ((∀ m ∈ modules, ∀ n ∈ modules, after.place n.file ≠ after.place m.specification) →
        modules.Pairwise (fun m n => after.place m.file ≠ after.place n.file) →
        ∀ m ∈ modules, g.HoldsText after m) ∧
      ∀ m ∈ modules, ∀ n ∈ modules, m.specification.name ≠ n.specification.name →
        Text.Unbroken m.specification.name → Text.Unbroken n.specification.name →
        after.place m.file = after.place n.file → ¬(g.HoldsText after m ∧ g.HoldsText after n) := by
  have hgenerated := generateEach_generated h
  refine ⟨hgenerated, fun m hm n hn => hgenerated.file_eq_iff hm hn,
    fun m hm n hn => hgenerated.place_eq_iff hm hn,
    fun hspecifications hplaces m hm => hgenerated.holdsText hspecifications hplaces hm, ?_⟩
  rintro m - n - hname hmname hnname hplace ⟨hmholds, hnholds⟩
  exact hmholds.place_ne hnholds hname hmname hnname hplace

/-- A generator that writes modules **beside their specifications**. -/
def besideGenerator : Generator := ⟨.builtIn, none, none, true, true, []⟩

/-- A tree with **two specifications**, which have the given names. -/
def pairTree (first second : Text) : FileTree :=
  ⟨[([first], .file (.text "Scenario: One\nGiven x")), ([second], .file (.text "Scenario: Two\nGiven y"))]⟩

/-- Specifications whose stems differ get **modules of their own**, which hold their texts. -/
theorem generateAll_generated_stems :
    ∃ modules after, besideGenerator.generateAll (pairTree "one.txt" "two.txt") ["one.txt", "two.txt"] =
        (.ok modules, after) ∧
      modules.map (·.file) = [⟨["test_one.py"]⟩, ⟨["test_two.py"]⟩] ∧
      besideGenerator.Generated (pairTree "one.txt" "two.txt") [⟨["one.txt"]⟩, ⟨["two.txt"]⟩] modules after ∧
      ∀ m ∈ modules, besideGenerator.HoldsText after m := by
  have hmodules : (besideGenerator.generateAll (pairTree "one.txt" "two.txt")
      ["one.txt", "two.txt"]).1.toOption = some
        [⟨⟨["one.txt"]⟩, ⟨["test_one.py"]⟩, true⟩, ⟨⟨["two.txt"]⟩, ⟨["test_two.py"]⟩, true⟩] := by
    decide +kernel
  have hspecifications : (pairTree "one.txt" "two.txt").specifications ["one.txt", "two.txt"] =
      [⟨["one.txt"]⟩, ⟨["two.txt"]⟩] := by
    decide +kernel
  obtain ⟨hgenerated, -, -, hholds, -⟩ := generateAll_generated (generateAll_eq_ok hmodules)
  rw [hspecifications] at hgenerated
  exact ⟨_, _, generateAll_eq_ok hmodules, rfl, hgenerated, hholds (by decide +kernel) (by decide +kernel)⟩

/-- Specifications that differ in their suffix **share a file**, which is left with the text for the second. -/
theorem shared_pairTree :
    (besideGenerator.generateAll (pairTree "a.txt" "a.feature") ["a.txt", "a.feature"]).1.toOption = some
        [⟨⟨["a.txt"]⟩, ⟨["test_a.py"]⟩, true⟩, ⟨⟨["a.feature"]⟩, ⟨["test_a.py"]⟩, true⟩] ∧
      let after := (besideGenerator.generateAll (pairTree "a.txt" "a.feature") ["a.txt", "a.feature"]).2
      (after.readText ⟨["test_a.py"]⟩).toOption = (besideGenerator.rendered after ⟨["a.feature"]⟩).toOption ∧
        (after.readText ⟨["test_a.py"]⟩).toOption ≠ (besideGenerator.rendered after ⟨["a.txt"]⟩).toOption :=
  ⟨by decide +kernel, by decide +kernel, by decide +kernel⟩

end Generator

end PlainSpec
