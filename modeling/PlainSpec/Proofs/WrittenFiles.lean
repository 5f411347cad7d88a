import Mathlib.Data.List.Infix
import PlainSpec.Files.Tree
import PlainSpec.Proofs.Outcomes

/-!
# Written files

Writing a file makes the folders that are missing on the way to it and puts the file at one place. All else
that stood in the tree stays there, so a path that led somewhere still leads to the same place, and only what
stands at the place of the file has changed.

## Main results

* `Keeps.walk`: a path still leads where it led.
* `Keeps.read`: what is read elsewhere stays the same.
* `put_keeps`: writing a file puts it at one place and keeps all others.
-/

namespace PlainSpec

namespace FileTree

/-! ### Following names -/

/-- **One name is followed** from a folder: two dots lead up, if this is not the top, and another name leads to
what stands there. -/
theorem walk_cons_eq_ok {tree : FileTree} {path : Path} {place rest target : List Text} {name : Text} :
    tree.walk path place (name :: rest) = .ok target ↔ tree.node? place = some .folder ∧
      ((name = ['.', '.'] ∧ place ≠ [] ∧ tree.walk path place.dropLast rest = .ok target) ∨
        (name ≠ ['.', '.'] ∧ (tree.node? (place ++ [name])).isSome = true ∧
          tree.walk path (place ++ [name]) rest = .ok target)) := by
  rw [walk]
  rcases hnode : tree.node? place with _ | _ | content
  · simp
  · by_cases hup : name = ['.', '.']
    · by_cases htop : place = [] <;> simp [hup, htop]
    · by_cases hnext : (tree.node? (place ++ [name])).isSome = true <;> simp [hup, hnext]
  · simp

/-- Names are followed **one part after the other**. -/
theorem walk_append_eq_ok {tree : FileTree} {path : Path} {place names others target : List Text} :
    tree.walk path place (names ++ others) = .ok target ↔
      ∃ between, tree.walk path place names = .ok between ∧ tree.walk path between others = .ok target := by
  induction names generalizing place with
  | nil => simp [walk]
  | cons name rest ih =>
      simp only [List.cons_append, walk_cons_eq_ok, ih]
      constructor
      · rintro ⟨hfolder, ⟨hup, htop, between, hrest, h⟩ | ⟨hdown, hnext, between, hrest, h⟩⟩
        · exact ⟨between, ⟨hfolder, .inl ⟨hup, htop, hrest⟩⟩, h⟩
        · exact ⟨between, ⟨hfolder, .inr ⟨hdown, hnext, hrest⟩⟩, h⟩
      · rintro ⟨between, ⟨hfolder, ⟨hup, htop, hrest⟩ | ⟨hdown, hnext, hrest⟩⟩, h⟩
        · exact ⟨hfolder, .inl ⟨hup, htop, between, hrest, h⟩⟩
        · exact ⟨hfolder, .inr ⟨hdown, hnext, between, hrest, h⟩⟩

/-! ### What is kept -/

/-- A tree **keeps** what stands in another one, except for the contents of files at given places. -/
structure Keeps (written : List (List Text)) (before after : FileTree) : Prop where
  /-- What stands at **any other place** stays. -/
  others : ∀ place node, before.node? place = some node → place ∉ written → after.node? place = some node
  /-- A **folder** stays a folder. -/
  folder : ∀ place, before.node? place = some .folder → after.node? place = some .folder
  /-- Where something stands, **something** still does. -/
  isSome : ∀ place, (before.node? place).isSome = true → (after.node? place).isSome = true

namespace Keeps

variable {written others : List (List Text)} {before between after : FileTree} {path : Path}

/-- A tree keeps **itself**. -/
theorem refl (written : List (List Text)) (tree : FileTree) : Keeps written tree tree :=
  ⟨fun _ _ h _ => h, fun _ h => h, fun _ h => h⟩

/-- What is kept **twice** is kept. -/
theorem trans (h₁ : Keeps written before between) (h₂ : Keeps others between after) :
    Keeps (written ++ others) before after where
  others place node hnode hplace := by
    rw [List.mem_append, not_or] at hplace
    exact h₂.others place node (h₁.others place node hnode hplace.1) hplace.2
  folder place hplace := h₂.folder place (h₁.folder place hplace)
  isSome place hplace := h₂.isSome place (h₁.isSome place hplace)

/-- **A path still leads where it led**, whichever path the names are of. The induction is on the names that
are left to follow. -/
theorem walk (h : Keeps written before after) {way : Path} {names place target : List Text}
    (hwalk : before.walk way place names = .ok target) : after.walk path place names = .ok target := by
  induction names generalizing place with
  | nil => exact hwalk
  | cons name rest ih =>
      obtain ⟨hfolder, ⟨hup, htop, hrest⟩ | ⟨hdown, hnext, hrest⟩⟩ := walk_cons_eq_ok.mp hwalk
      · exact walk_cons_eq_ok.mpr ⟨h.folder _ hfolder, .inl ⟨hup, htop, ih hrest⟩⟩
      · exact walk_cons_eq_ok.mpr ⟨h.folder _ hfolder, .inr ⟨hdown, h.isSome _ hnext, ih hrest⟩⟩

/-- A path still leads to **its place**. -/
theorem place (h : Keeps written before after) {target : List Text}
    (hplace : before.place path = .ok target) : after.place path = .ok target :=
  h.walk hplace

end Keeps

/-- The place of a path **into a folder** is in the place of the folder. -/
theorem place_append_eq_ok {tree : FileTree} {folder : Path} {name : Text} {target : List Text}
    (hname : name ≠ ['.', '.']) : tree.place (folder.append ⟨[name]⟩) = .ok target ↔
      ∃ place, tree.place folder = .ok place ∧ tree.node? place = some .folder ∧
        (tree.node? (place ++ [name])).isSome = true ∧ place ++ [name] = target := by
  constructor
  · intro h
    obtain ⟨place, hplace, htarget⟩ := walk_append_eq_ok.mp h
    obtain ⟨hfolder, ⟨hup, -, -⟩ | ⟨-, hsome, hend⟩⟩ := walk_cons_eq_ok.mp htarget
    · exact absurd hup hname
    · exact ⟨place, (Keeps.refl [] tree).walk hplace, hfolder, hsome, Except.ok.inj hend⟩
  · rintro ⟨place, hplace, hfolder, hsome, rfl⟩
    exact walk_append_eq_ok.mpr ⟨place, (Keeps.refl [] tree).walk hplace,
      walk_cons_eq_ok.mpr ⟨hfolder, .inr ⟨hname, hsome, rfl⟩⟩⟩

/-- A path that can be **read** leads to a file. -/
theorem read_eq_ok {tree : FileTree} {path : Path} {content : FileContent} :
    tree.read path = .ok content ↔
      ∃ place, tree.place path = .ok place ∧ tree.node? place = some (.file content) := by
  rw [read, find]
  cases hplace : tree.place path with
  | error fault => simp
  | ok place =>
      cases hnode : tree.node? place with
      | none => simp [hnode]
      | some node => cases node <;> simp [hnode]

/-- A path whose **text** can be read leads to a file that holds it. -/
theorem readText_eq_ok {tree : FileTree} {path : Path} {t : Text} :
    tree.readText path = .ok t ↔ ∃ content, tree.read path = .ok content ∧ textOf content = .ok t := by
  rw [readText]
  cases tree.read path with
  | error fault => simp [Except.bind]
  | ok content => simp [Except.bind]

/-- Paths that lead to **one place** are read alike. -/
theorem readText_of_place {tree : FileTree} {path other : Path} {t : Text}
    (hplace : tree.place other = tree.place path) (h : tree.readText path = .ok t) :
    tree.readText other = .ok t := by
  obtain ⟨content, hcontent, ht⟩ := readText_eq_ok.mp h
  obtain ⟨place, hpath, hnode⟩ := read_eq_ok.mp hcontent
  exact readText_eq_ok.mpr ⟨content, read_eq_ok.mpr ⟨place, hplace.trans hpath, hnode⟩, ht⟩

/-- **What is read elsewhere stays the same.** -/
theorem Keeps.read {written : List (List Text)} {before after : FileTree} {path : Path}
    (h : Keeps written before after) {content : FileContent} (hread : before.read path = .ok content)
    (helsewhere : ∀ place ∈ written, after.place path ≠ .ok place) : after.read path = .ok content := by
  obtain ⟨place, hplace, hnode⟩ := read_eq_ok.mp hread
  have hafter := h.place hplace
  exact read_eq_ok.mpr ⟨place, hafter,
    h.others place _ hnode fun hwritten => helsewhere place hwritten hafter⟩

/-! ### Putting nodes into a tree -/

/-- What stands **at another place** stays when a node is put into a tree. -/
theorem node?_insert_of_ne (tree : FileTree) {place other : List Text} (h : other ≠ place)
    (node : FileNode) : (tree.insert place node).node? other = tree.node? other := by
  cases other with
  | nil => rfl
  | cons name names =>
      show List.lookup _ _ = List.lookup _ _
      rw [insert, List.lookup_cons, beq_eq_false_iff_ne.mpr h, Entries.lookup_filter (· != place),
        if_pos (bne_iff_ne.mpr h)]

/-- A node that is put **into a folder** stands there. -/
theorem node?_insert_concat (tree : FileTree) (place : List Text) (name : Text) (node : FileNode) :
    (tree.insert (place ++ [name]) node).node? (place ++ [name]) = some node := by
  rcases hnext : place ++ [name] with _ | ⟨first, others⟩
  · exact absurd hnext (by simp)
  · exact node?_insert tree first others node

/-- A **file** that is put where no folder stands changes nothing but what stands there. -/
theorem insert_file_keeps {tree : FileTree} {place : List Text} (content : FileContent)
    (h : tree.node? place ≠ some .folder) : Keeps [place] tree (tree.insert place (.file content)) where
  others other node hnode hother := by
    rwa [node?_insert_of_ne tree (fun heq => hother (List.mem_singleton.mpr heq))]
  folder other hother := by
    have hne : other ≠ place := by
      rintro rfl
      exact h hother
    rwa [node?_insert_of_ne tree hne]
  isSome other hother := by
    by_cases heq : other = place
    · subst heq
      cases other with
      | nil => rfl
      | cons name names => rw [node?_insert]; rfl
    · rwa [node?_insert_of_ne tree heq]

/-- A **folder** that is put where nothing stood changes nothing else. -/
theorem insert_folder_keeps {tree : FileTree} {place : List Text} (h : tree.node? place = none) :
    Keeps [] tree (tree.insert place .folder) := by
  have hother : ∀ other, (tree.node? other).isSome = true →
      (tree.insert place .folder).node? other = tree.node? other := by
    rintro other hsome
    refine node?_insert_of_ne tree (fun heq => ?_) _
    rw [heq, h] at hsome
    exact absurd hsome (by simp)
  refine ⟨fun other node hnode _ => ?_, fun other hfolder => ?_, fun other hsome => ?_⟩
  · rw [hother other (by rw [hnode]; rfl), hnode]
  · rw [hother other (by rw [hfolder]; rfl), hfolder]
  · rwa [hother other hsome]

/-! ### Making folders -/

/-- Every place **on the way** to a place is a folder, and so is the place itself. -/
def FoldersTo (tree : FileTree) (place : List Text) : Prop :=
  ∀ above, above <+: place → tree.node? above = some .folder

/-- The **top** is a folder. -/
theorem foldersTo_top (tree : FileTree) : tree.FoldersTo [] := by
  intro above habove
  rw [List.prefix_nil.mp habove]
  rfl

/-- A folder **in** a folder. -/
theorem FoldersTo.concat {tree : FileTree} {place : List Text} {name : Text} (h : tree.FoldersTo place)
    (hname : tree.node? (place ++ [name]) = some .folder) : tree.FoldersTo (place ++ [name]) := by
  intro above habove
  rcases List.prefix_concat_iff.mp habove with rfl | habove
  · exact hname
  · exact h above habove

/-- Where **everything is kept**, folders are. -/
theorem FoldersTo.kept {written : List (List Text)} {before after : FileTree} {place : List Text}
    (h : before.FoldersTo place) (hkeeps : Keeps written before after) : after.FoldersTo place :=
  fun above habove => hkeeps.folder above (h above habove)

/-- **One folder is made**, or it was there; two dots lead up. -/
theorem makeFoldersFrom_cons_eq_ok {path : Path} {tree after : FileTree} {place rest : List Text} {name : Text}
    (h : makeFoldersFrom path tree place (name :: rest) = .ok after) :
    (name = ['.', '.'] ∧ makeFoldersFrom path tree place.dropLast rest = .ok after) ∨
      (name ≠ ['.', '.'] ∧ ∃ between, makeFoldersFrom path between (place ++ [name]) rest = .ok after ∧
        ((between = tree ∧ tree.node? (place ++ [name]) = some .folder) ∨
          (between = tree.insert (place ++ [name]) .folder ∧ tree.node? (place ++ [name]) = none))) := by
  rw [makeFoldersFrom] at h
  simp only at h
  split at h
  · next hup => exact .inl ⟨hup, h⟩
  · next hdown =>
    split at h
    · next hfolder => exact .inr ⟨hdown, tree, h, .inl ⟨rfl, hfolder⟩⟩
    · exact absurd h (by simp)
    · next hnone => exact .inr ⟨hdown, _, h, .inr ⟨rfl, hnone⟩⟩

/-- Making folders **keeps the tree**, and where the names lead there are folders on the whole way. The
induction is on the names, from a place that is reached by folders. -/
theorem makeFoldersFrom_keeps {path : Path} {tree after : FileTree} {place names : List Text}
    (h : makeFoldersFrom path tree place names = .ok after) (hplace : tree.FoldersTo place) :
    Keeps [] tree after ∧ ∀ way target, after.walk way place names = .ok target → after.FoldersTo target := by
  induction names generalizing tree place with
  | nil =>
      obtain rfl := Except.ok.inj h
      refine ⟨.refl [] tree, fun way target hwalk => ?_⟩
      obtain rfl := Except.ok.inj hwalk
      exact hplace
  | cons name rest ih =>
      rcases makeFoldersFrom_cons_eq_ok h with ⟨hup, hmade⟩ | ⟨hdown, between, hmade, hcases⟩
      · obtain ⟨hkeeps, htargets⟩ := ih hmade fun above habove =>
          hplace above (habove.trans (List.dropLast_prefix place))
        refine ⟨hkeeps, fun way target hwalk => ?_⟩
        obtain ⟨-, ⟨-, -, hrest⟩ | ⟨hdown, -, -⟩⟩ := walk_cons_eq_ok.mp hwalk
        · exact htargets way target hrest
        · exact absurd hup hdown
      · -- the next place is a folder, be it that it was one or that it is made
        obtain ⟨hbetween, hfolder⟩ : Keeps [] tree between ∧ between.node? (place ++ [name]) = some .folder := by
          rcases hcases with ⟨rfl, hfolder⟩ | ⟨rfl, hnone⟩
          · exact ⟨.refl [] _, hfolder⟩
          · exact ⟨insert_folder_keeps hnone, node?_insert_concat tree place name .folder⟩
        obtain ⟨hkeeps, htargets⟩ := ih hmade ((hplace.kept hbetween).concat hfolder)
        refine ⟨hbetween.trans hkeeps, fun way target hwalk => ?_⟩
        obtain ⟨-, ⟨hup, -, -⟩ | ⟨-, -, hrest⟩⟩ := walk_cons_eq_ok.mp hwalk
        · exact absurd hup hdown
        · exact htargets way target hrest

/-- Making folders **makes no files**. -/
theorem node?_of_makeFoldersFrom {path : Path} {tree after : FileTree} {place names other : List Text}
    {content : FileContent} (h : makeFoldersFrom path tree place names = .ok after)
    (hfile : after.node? other = some (.file content)) : tree.node? other = some (.file content) := by
  induction names generalizing tree place with
  | nil => rwa [Except.ok.inj h]
  | cons name rest ih =>
      rcases makeFoldersFrom_cons_eq_ok h with ⟨-, hmade⟩ | ⟨-, between, hmade, ⟨rfl, -⟩ | ⟨rfl, -⟩⟩
      · exact ih hmade
      · exact ih hmade
      · have hbetween := ih hmade
        have hne : other ≠ place ++ [name] := by
          rintro rfl
          rw [node?_insert_concat] at hbetween
          exact absurd hbetween (by simp)
        rwa [node?_insert_of_ne tree hne] at hbetween

/-! ### Writing files -/

/-- A file is **written into the folder** above it, where no folder stands. -/
theorem write_eq_ok {tree after : FileTree} {path : Path} {content : FileContent}
    (h : tree.write path content = .ok after) :
    ∃ place, tree.place path.parent = .ok place ∧ tree.node? (place ++ [path.name]) ≠ some .folder ∧
      after = tree.insert (place ++ [path.name]) (.file content) := by
  rw [write] at h
  cases hplace : tree.place path.parent with
  | error fault => exact absurd h (by simp [hplace])
  | ok place =>
      simp only [hplace] at h
      split at h
      · exact absurd h (by simp)
      · next hfile => exact ⟨place, rfl, hfile, (Except.ok.inj h).symm⟩

/-- Two trees have **the same files except at one place**. -/
def SameFilesBut (place : List Text) (before after : FileTree) : Prop :=
  ∀ other, other ≠ place → ∀ content,
    before.node? other = some (.file content) ↔ after.node? other = some (.file content)

/-- **Writing a file puts it at one place** and keeps all others, and no file comes up elsewhere. The path leads
there. -/
theorem put_keeps {tree after : FileTree} {folder : Path} {name : Text} {content : FileContent}
    (hname : name ≠ ['.', '.']) (h : tree.put (folder.append ⟨[name]⟩) content = .ok after) :
    ∃ place, Keeps [place] tree after ∧ SameFilesBut place tree after ∧
      after.place (folder.append ⟨[name]⟩) = .ok place ∧ after.node? place = some (.file content) := by
  have hparent : (folder.append ⟨[name]⟩).parent = folder := by
    simp [Path.append, Path.parent]
  have hlast : (folder.append ⟨[name]⟩).name = name := by
    simp [Path.append, Path.name]
  rw [put, hparent] at h
  obtain ⟨made, hmade, h⟩ := exists_of_bind_eq_ok h
  obtain ⟨target, hplace, hfile, rfl⟩ := write_eq_ok h
  rw [hparent] at hplace
  rw [hlast] at hfile ⊢
  obtain ⟨hkeeps, htargets⟩ := makeFoldersFrom_keeps hmade (foldersTo_top tree)
  have hwritten := insert_file_keeps content hfile
  have hnode := node?_insert_concat made target name (.file content)
  have hfolder := (htargets folder target hplace).kept hwritten target List.prefix_rfl
  have hall := hkeeps.trans hwritten
  refine ⟨target ++ [name], hall, fun other hother found => ?_, ?_, hnode⟩
  · constructor
    · exact fun hbefore => hall.others other _ hbefore (by simpa using hother)
    · intro hafter
      rw [node?_insert_of_ne made hother] at hafter
      exact node?_of_makeFoldersFrom hmade hafter
  · refine (place_append_eq_ok hname).mpr ⟨target, hwritten.place hplace, hfolder, ?_, rfl⟩
    rw [hnode]
    rfl

/-! ### Line breaks -/

/-- What has **no carriage returns** stays as it is, whatever comes behind it. -/
theorem unifyLineBreaks_append {t : Text} (h : '\r' ∉ t) (rest : Text) :
    unifyLineBreaks (t ++ rest) = t ++ unifyLineBreaks rest := by
  induction t with
  | nil => rfl
  | cons c others ih =>
      rw [List.mem_cons, not_or] at h
      rw [List.cons_append, unifyLineBreaks, if_neg (Ne.symm h.1), ih h.2, List.cons_append]
      rintro u rfl
      exact absurd rfl h.1

/-- Line breaks that are line feeds **stay as they are**. -/
theorem unifyLineBreaks_of_notMem {t : Text} (h : '\r' ∉ t) : unifyLineBreaks t = t := by
  have hnil := unifyLineBreaks_append h []
  rwa [List.append_nil, unifyLineBreaks, List.append_nil] at hnil

/-- There are no **carriage returns** among unified line breaks. -/
theorem notMem_unifyLineBreaks (t : Text) : '\r' ∉ unifyLineBreaks t := by
  fun_induction unifyLineBreaks t with
  | case1 => exact List.not_mem_nil
  | case2 rest ih => simpa using ih
  | case3 c rest _ ih =>
      rw [List.mem_cons, not_or]
      refine ⟨fun hc => ?_, ih⟩
      split at hc
      · exact absurd hc (by decide)
      · next hne => exact hne hc.symm

/-- What is read from a file has **unified line breaks**. -/
theorem unifyLineBreaks_textOf {content : FileContent} {t : Text} (h : textOf content = .ok t) :
    unifyLineBreaks t = t := by
  refine unifyLineBreaks_of_notMem ?_
  unfold textOf at h
  split at h
  · exact Except.ok.inj h ▸ notMem_unifyLineBreaks _
  · split at h
    · exact Except.ok.inj h ▸ notMem_unifyLineBreaks _
    · exact absurd h (by simp)
  · exact Except.ok.inj h ▸ List.not_mem_nil

end FileTree

end PlainSpec
