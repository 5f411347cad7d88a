import Mathlib
import PlainSpec.Proofs.WildcardPaths
import PlainSpec.Specification.Files

/-!
# Listed specifications

A list of entries names specification files. An entry with one of the characters of wildcards is taken for a path with
wildcards, even if there is a file with this very name; another one stands for everything below the folder that it
leads to, or else for its own path. What several entries mention is listed once, where it is mentioned first.

Below a folder, what counts is the name, so a folder that is named like a specification is listed too.

## Main results

* `foldl_append_new`: what is left of a list when only new members are appended.
* `FileTree.listsFolder_specificationsBelow`: the files that are listed for a folder.
* `FileTree.specifications_listed`: which files are listed, and in which order.
-/

namespace PlainSpec

/-- **Appending only what is new** leaves every member once, in the order in which they come first. The induction is on
the list from its end. -/
theorem foldl_append_new {α : Type} [BEq α] [LawfulBEq α] (l : List α) :
    (l.foldl (fun seen a => if seen.contains a then seen else seen ++ [a]) []).Nodup ∧
      (∀ a, a ∈ l.foldl (fun seen a => if seen.contains a then seen else seen ++ [a]) [] ↔ a ∈ l) ∧
      (l.foldl (fun seen a => if seen.contains a then seen else seen ++ [a]) []).Pairwise
        fun a b => l.idxOf a < l.idxOf b := by
  induction l using List.reverseRecOn with
  | nil => exact ⟨List.nodup_nil, fun a => Iff.rfl, List.Pairwise.nil⟩
  | append_singleton l new ih =>
      rw [List.foldl_append, List.foldl_cons, List.foldl_nil]
      generalize l.foldl (fun seen a => if seen.contains a then seen else seen ++ [a]) [] = seen at ih ⊢
      obtain ⟨hnodup, hmem, hsorted⟩ := ih
      -- where a member is found does not change
      have hkept : seen.Pairwise fun a b => (l ++ [new]).idxOf a < (l ++ [new]).idxOf b := by
        refine hsorted.imp_of_mem fun ha hb h => ?_
        rwa [List.idxOf_append_of_mem ((hmem _).mp ha), List.idxOf_append_of_mem ((hmem _).mp hb)]
      split
      · next hold =>
        rw [List.contains_iff_mem] at hold
        refine ⟨hnodup, fun a => ?_, hkept⟩
        rw [hmem, List.mem_append, List.mem_singleton]
        constructor
        · exact Or.inl
        · rintro (ha | rfl)
          · exact ha
          · exact (hmem a).mp hold
      · next hnew =>
        rw [List.contains_iff_mem, hmem] at hnew
        have hlast : (l ++ [new]).idxOf new = l.length := by
          rw [List.idxOf_append_of_notMem hnew, List.idxOf_cons_self, Nat.add_zero]
        refine ⟨?_, fun a => ?_, ?_⟩
        · refine List.nodup_append.mpr ⟨hnodup, List.pairwise_singleton _ _, ?_⟩
          rintro a ha b hb rfl
          obtain rfl := List.mem_singleton.mp hb
          exact hnew ((hmem a).mp ha)
        · rw [List.mem_append, List.mem_append, hmem]
        · rw [List.pairwise_append]
          refine ⟨hkept, List.pairwise_singleton _ _, fun a ha b hb => ?_⟩
          obtain rfl := List.mem_singleton.mp hb
          rw [hlast, List.idxOf_append_of_mem ((hmem _).mp ha)]
          exact List.idxOf_lt_length_iff.mpr ((hmem _).mp ha)

namespace FileTree

variable {tree : FileTree} {folder path : Path} {entry : Text} {entries : List Text} {top : List Text}

/-! ### Folders -/

/-- A path leads to a **folder** exactly if there is a folder at its place. -/
theorem hasFolder_iff : tree.hasFolder path = true ↔
    ∃ place, tree.place path = .ok place ∧ tree.node? place = some .folder := by
  rw [hasFolder, find]
  cases hplace : tree.place path with
  | error fault => simp
  | ok place =>
      cases hnode : tree.node? place with
      | none => simp [hnode]
      | some node => cases node <;> simp [hnode, FileNode.isFolder]

/-- What is **listed for a folder**: the list is in order, everything in it stands below the folder, and of the files
below the folder those are in it that are named like specifications. -/
structure ListsFolder (tree : FileTree) (folder : Path) (top : List Text) (paths : List Path) : Prop where
  sorted : paths.Pairwise fun a b => a.before b = true
  below : ∀ path ∈ paths, ∃ names, names ≠ [] ∧ path = folder.append ⟨names⟩ ∧
    (tree.node? (top ++ names)).isSome = true
  files : ∀ names content, tree.node? (top ++ names) = some (.file content) →
    (folder.append ⟨names⟩ ∈ paths ↔ (folder.append ⟨names⟩).suffix ∈ specificationSuffixes)

/-- The members of the list for a folder are what stands **below it and is named like a specification**. -/
theorem mem_specificationsBelow (hplace : tree.place folder = .ok top) : path ∈ tree.specificationsBelow folder ↔
    ∃ names, names ≠ [] ∧ path = folder.append ⟨names⟩ ∧ (tree.node? (top ++ names)).isSome = true ∧
      path.suffix ∈ specificationSuffixes := by
  rw [specificationsBelow, List.mem_mergeSort, List.mem_filter, List.mem_map, List.contains_iff_mem]
  constructor
  · rintro ⟨⟨⟨names, node⟩, hmem, rfl⟩, hsuffix⟩
    obtain ⟨hne, hnode⟩ := (mem_below hplace).mp hmem
    exact ⟨names, hne, rfl, isSome_node?_of_mem hnode, hsuffix⟩
  · rintro ⟨names, hne, rfl, hsome, hsuffix⟩
    obtain ⟨node, hnode⟩ := Option.isSome_iff_exists.mp hsome
    exact ⟨⟨(names, node), (mem_below hplace).mpr ⟨hne, mem_nodes_of_node? (by simp [hne]) hnode⟩, rfl⟩, hsuffix⟩

/-- **The list for a folder.** -/
theorem listsFolder_specificationsBelow (hplace : tree.place folder = .ok top)
    (hfolder : tree.node? top = some .folder) : tree.ListsFolder folder top (tree.specificationsBelow folder) where
  sorted := pairwise_mergeSort Path.names (fun _ _ => Path.before_iff_le) _
  below path hpath := by
    obtain ⟨names, hne, hpath, hsome, -⟩ := (mem_specificationsBelow hplace).mp hpath
    exact ⟨names, hne, hpath, hsome⟩
  files names content hfile := by
    rw [mem_specificationsBelow hplace]
    constructor
    · rintro ⟨_, -, -, -, hsuffix⟩
      exact hsuffix
    · intro hsuffix
      refine ⟨names, ?_, rfl, by rw [hfile]; rfl, hsuffix⟩
      rintro rfl
      rw [List.append_nil, hfolder] at hfile
      exact absurd hfile (by simp)

/-! ### Entries -/

/-- What is listed is what **one of the entries mentions**. -/
theorem mem_specifications :
    path ∈ tree.specifications entries ↔ ∃ entry ∈ entries, path ∈ tree.specificationsOf entry :=
  ((foldl_append_new (entries.flatMap tree.specificationsOf)).2.1 path).trans List.mem_flatMap

/-- An entry **for a folder** mentions what is listed for it. -/
theorem specificationsOf_of_folder (hplain : hasWildcards entry = false)
    (hfolder : tree.hasFolder (Path.ofText entry) = true) :
    tree.specificationsOf entry = tree.specificationsBelow (Path.ofText entry) := by
  rw [specificationsOf, if_neg (by simp [hplain]), if_pos hfolder]

/-- An entry without wildcards that leads to **no folder** mentions its own path. -/
theorem specificationsOf_of_file (hplain : hasWildcards entry = false)
    (hfile : tree.hasFolder (Path.ofText entry) = false) : tree.specificationsOf entry = [Path.ofText entry] := by
  rw [specificationsOf, if_neg (by simp [hplain]), if_neg (by simp [hfile])]

/-- A path that can be read leads to **no folder**. -/
theorem hasFolder_of_read {content : FileContent} (h : tree.read path = .ok content) :
    tree.hasFolder path = false := by
  obtain ⟨place, hplace, hfile⟩ := read_eq_ok.mp h
  rw [← Bool.not_eq_true, hasFolder_iff]
  rintro ⟨place', hplace', hfolder⟩
  obtain rfl := Except.ok.inj (hplace.symm.trans hplace')
  rw [hfile] at hfolder
  exact absurd hfolder (by simp)

/-- **The path of a file is listed for an entry that names it**, if the entry is without brackets. An entry with
wildcards must not end like a folder, in a slash or in a dot behind one. -/
theorem ofText_mem_specificationsOf {content : FileContent} (hbracket : '[' ∉ entry)
    (hlast : hasWildcards entry = true → ∀ last ∈ (Text.splitOn (· == '/') entry).getLast?, Path.counts last = true)
    (h : tree.read (Path.ofText entry) = .ok content) : Path.ofText entry ∈ tree.specificationsOf entry := by
  cases hwild : hasWildcards entry with
  | true =>
      rw [specificationsOf, if_pos hwild]
      exact mem_expand hbracket (hlast hwild) h
  | false =>
      rw [specificationsOf_of_file hwild (hasFolder_of_read h)]
      exact List.mem_singleton_self _

/-- **Which files are listed, and in which order.** No path is listed twice, and all paths that the entries mention are
listed, in the order in which they are first mentioned. Every entry without brackets that names a file is listed, where
an entry with wildcards must not end like a folder. For an entry without wildcards that leads to a folder, the files
below it that are named like specifications are listed in order, and no others. -/
theorem specifications_listed (tree : FileTree) (entries : List Text) :
    (tree.specifications entries).Nodup ∧
      (∀ path, path ∈ tree.specifications entries ↔ ∃ entry ∈ entries, path ∈ tree.specificationsOf entry) ∧
      ((tree.specifications entries).Pairwise fun a b =>
        (entries.flatMap tree.specificationsOf).idxOf a < (entries.flatMap tree.specificationsOf).idxOf b) ∧
      (∀ entry ∈ entries, '[' ∉ entry →
        (hasWildcards entry = true →
          ∀ last ∈ (Text.splitOn (· == '/') entry).getLast?, Path.counts last = true) →
        ∀ content, tree.read (Path.ofText entry) = .ok content →
          Path.ofText entry ∈ tree.specifications entries) ∧
      ∀ entry ∈ entries, hasWildcards entry = false →
        ∀ top, tree.place (Path.ofText entry) = .ok top → tree.node? top = some .folder →
          tree.ListsFolder (Path.ofText entry) top (tree.specificationsOf entry) ∧
            ∀ path ∈ tree.specificationsOf entry, path ∈ tree.specifications entries := by
  obtain ⟨hnodup, -, hsorted⟩ := foldl_append_new (entries.flatMap tree.specificationsOf)
  refine ⟨hnodup, fun path => mem_specifications, hsorted, ?_, ?_⟩
  · intro entry hentry hbracket hlast content hread
    exact mem_specifications.mpr ⟨entry, hentry, ofText_mem_specificationsOf hbracket hlast hread⟩
  · intro entry hentry hplain top hplace hfolder
    have hof := specificationsOf_of_folder hplain (hasFolder_iff.mpr ⟨top, hplace, hfolder⟩)
    refine ⟨?_, fun path hpath => mem_specifications.mpr ⟨entry, hentry, hpath⟩⟩
    rw [hof]
    exact listsFolder_specificationsBelow hplace hfolder

/-- A tree with files whose names have **brackets or a star**, and with a folder that is **named like a
specification**. -/
def bracketTree : FileTree :=
  ⟨[(["a[1].txt"], .file (.text "Scenario: A\nGiven x\n")), (["b*.txt"], .file (.text "Scenario: B\nGiven x\n")),
    (["specs"], .folder), (["specs", "old.txt"], .folder),
    (["specs", "old.txt", "a.feature"], .file (.text "Scenario: C\nGiven x\n"))]⟩

/-- The file with brackets in its name is **not listed for its own name**, as this is taken for wildcards, nor is the one
with a star for its name with a slash behind it. The folder that is named like a specification is listed with the file
in it. -/
theorem specifications_bracketTree :
    (bracketTree.read (Path.ofText "a[1].txt")).toBool = true ∧ bracketTree.specifications ["a[1].txt"] = [] ∧
      (bracketTree.read (Path.ofText "b*.txt/")).toBool = true ∧ bracketTree.specifications ["b*.txt/"] = [] ∧
      bracketTree.hasFolder ⟨["specs", "old.txt"]⟩ = true ∧
      bracketTree.specifications ["specs"] = [⟨["specs", "old.txt"]⟩, ⟨["specs", "old.txt", "a.feature"]⟩] :=
  ⟨by decide +kernel, by cbv, by decide +kernel, by cbv, by decide +kernel, by cbv⟩

end FileTree

end PlainSpec
