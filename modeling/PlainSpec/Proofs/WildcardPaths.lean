import Mathlib.Data.List.TakeWhile
import PlainSpec.Files.Wildcard
import PlainSpec.Proofs.Paths
import PlainSpec.Proofs.WrittenFiles

/-!
# Paths with wildcards

A name is compared with wildcards from its end, and for each character all pieces of the wildcards are looked at, so
that no way of dividing the name among the stars is tried twice. What is found like this is whether the name can be
divided at all: a star takes any characters, and every other piece takes one that it admits. In particular a name
without brackets, taken for wildcards, agrees with itself.

A path with wildcards is followed name by name through the folders of a tree. So the path of a file, taken for
wildcards, is one of those that are found, unless there is a bracket in it: a name in brackets stands for the
characters in them and not for itself.

## Main results

* `WildcardPiece.agree_iff`: the comparison finds out whether a name can be divided among the pieces.
* `WildcardPiece.agree_read_self`: a name without brackets agrees with itself.
* `FileTree.mem_through`: a path leads through its own name.
* `FileTree.mem_expand`: the path of a file is among those that it stands for.
-/

namespace PlainSpec

namespace WildcardPiece

/-! ### Dividing a name -/

/-- A name **is divided among pieces**: a star takes as many of its characters as it likes, and another piece takes one
that it admits. -/
inductive Agrees : List WildcardPiece → Text → Prop
  | nil : Agrees [] []
  | one {piece : WildcardPiece} {pieces : List WildcardPiece} {c : Char} {t : Text} :
      piece.admits c = true → Agrees pieces t → Agrees (piece :: pieces) (c :: t)
  | skip {pieces : List WildcardPiece} {t : Text} : Agrees pieces t → Agrees (anyChars :: pieces) t
  | take {pieces : List WildcardPiece} {c : Char} {t : Text} :
      Agrees (anyChars :: pieces) t → Agrees (anyChars :: pieces) (c :: t)

variable {piece : WildcardPiece} {pieces : List WildcardPiece} {c : Char} {t : Text}

theorem agrees_nil_iff : Agrees [] t ↔ t = [] := by
  constructor
  · rintro ⟨⟩
    rfl
  · rintro rfl
    exact .nil

theorem agrees_cons_nil_iff : Agrees (piece :: pieces) [] ↔ piece = anyChars ∧ Agrees pieces [] := by
  constructor
  · rintro ⟨⟩
    exact ⟨rfl, by assumption⟩
  · rintro ⟨rfl, h⟩
    exact .skip h

theorem agrees_cons_cons_iff : Agrees (piece :: pieces) (c :: t) ↔
    (piece = anyChars ∧ (Agrees pieces (c :: t) ∨ Agrees (anyChars :: pieces) t)) ∨
      (piece.admits c = true ∧ Agrees pieces t) := by
  constructor
  · intro h
    cases h with
    | one hadmits h => exact .inr ⟨hadmits, h⟩
    | skip h => exact .inl ⟨rfl, .inl h⟩
    | take h => exact .inl ⟨rfl, .inr h⟩
  · rintro (⟨rfl, h | h⟩ | ⟨hadmits, h⟩)
    · exact .skip h
    · exact .take h
    · exact .one hadmits h

/-! ### Verdicts -/

/-- The **verdicts** on a text: for all pieces, and for those behind each one, whether the text can be divided among
them. -/
inductive Verdicts (t : Text) : List WildcardPiece → List Bool → Prop
  | nil {verdict : Bool} : (verdict = true ↔ Agrees [] t) → Verdicts t [] [verdict]
  | cons {piece : WildcardPiece} {pieces : List WildcardPiece} {verdict : Bool} {verdicts : List Bool} :
      (verdict = true ↔ Agrees (piece :: pieces) t) → Verdicts t pieces verdicts →
        Verdicts t (piece :: pieces) (verdict :: verdicts)

/-- The **first verdict** is on all pieces. -/
theorem Verdicts.headD_iff {verdicts : List Bool} (h : Verdicts t pieces verdicts) :
    verdicts.headD false = true ↔ Agrees pieces t := by
  cases h with
  | nil hverdict => exact hverdict
  | cons hverdict _ => exact hverdict

/-- The verdicts on **nothing**. -/
theorem verdicts_agreeEmpty (pieces : List WildcardPiece) : Verdicts [] pieces (agreeEmpty pieces) := by
  induction pieces with
  | nil => exact .nil (by simp [agrees_nil_iff])
  | cons piece pieces ih =>
      refine .cons ?_ ih
      rw [Bool.and_eq_true, beq_iff_eq, ih.headD_iff, agrees_cons_nil_iff]

/-- The verdicts on a text with **one more character** in front. -/
theorem Verdicts.agreeNext {verdicts : List Bool} (h : Verdicts t pieces verdicts) (c : Char) :
    Verdicts (c :: t) pieces (agreeNext c pieces verdicts) := by
  induction h with
  | nil _ => exact .nil (by simp [agrees_nil_iff])
  | @cons piece pieces verdict verdicts hverdict hrest ih =>
      refine .cons ?_ ih
      rw [agrees_cons_cons_iff, List.tail_cons, List.headD_cons]
      cases piece with
      | anyChars =>
          have hadmits : anyChars.admits c = false := rfl
          simp only [Bool.or_eq_true, ih.headD_iff, hverdict, hadmits, true_and, Bool.false_eq_true, false_and, or_false]
      | char _ | anyChar | oneOf _ _ =>
          simp only [Bool.and_eq_true, hrest.headD_iff, reduceCtorEq, false_and, false_or]

/-- **A name agrees with pieces exactly if it can be divided among them.** -/
theorem agree_iff (pieces : List WildcardPiece) (name : Text) : agree pieces name = true ↔ Agrees pieces name := by
  have hverdicts : Verdicts name pieces (name.foldr (WildcardPiece.agreeNext · pieces) (agreeEmpty pieces)) := by
    induction name with
    | nil => exact verdicts_agreeEmpty pieces
    | cons c name ih => exact ih.agreeNext c
  exact hverdicts.headD_iff

/-- **A name without brackets agrees with itself**: a star takes the star, and any other character is admitted. -/
theorem agree_read_self {name : Text} (h : '[' ∉ name) : agree (read name) name = true := by
  rw [agree_iff, read]
  induction name with
  | nil => exact .nil
  | cons c name ih =>
      rw [List.mem_cons, not_or] at h
      obtain ⟨hc, h⟩ := h
      by_cases hstar : c = '*'
      · subst hstar
        exact .take (.skip (ih h))
      · by_cases hmark : c = '?'
        · subst hmark
          exact .one rfl (ih h)
        · rw [readFrom]
          · exact .one (beq_self_eq_true c) (ih h)
          · exact hstar
          · exact hmark
          · exact Ne.symm hc

end WildcardPiece

namespace FileTree

variable {tree : FileTree} {path : Path} {place top next names rest : List Text} {name : Text} {node : FileNode}

/-! ### Places that are reached -/

/-- A place that can be **reached**: everything on the way to it is a folder, and something stands there. -/
structure Reached (tree : FileTree) (place : List Text) : Prop where
  folder : ∀ above, above <+: place → above ≠ place → tree.node? above = some .folder
  isSome : (tree.node? place).isSome = true

/-- The **top** is reached. -/
theorem reached_top (tree : FileTree) : tree.Reached [] :=
  ⟨fun _ habove hne => absurd (List.prefix_nil.mp habove) hne, rfl⟩

/-- From a place that is reached, names lead **to places that are reached**. The induction is on the names: two dots
lead to a folder on the way, and another name to something in the folder that was reached. -/
theorem Reached.walk (hplace : tree.Reached place) (h : tree.walk path place names = .ok next) :
    tree.Reached next := by
  induction names generalizing place with
  | nil => exact Except.ok.inj h ▸ hplace
  | cons name names ih =>
      obtain ⟨hfolder, ⟨-, htop, hrest⟩ | ⟨-, hsome, hrest⟩⟩ := walk_cons_eq_ok.mp h
      · refine ih ⟨fun above habove hne => ?_, ?_⟩ hrest
        · refine hplace.folder above (habove.trans (List.dropLast_prefix place)) fun heq => hne ?_
          exact habove.eq_of_length_le (heq ▸ (List.dropLast_prefix place).length_le)
        · have hshorter : place.dropLast ≠ place := by
            intro heq
            have hlength := congrArg List.length heq
            rw [List.length_dropLast] at hlength
            have hpositive := List.length_pos_iff.mpr htop
            omega
          rw [hplace.folder _ (List.dropLast_prefix place) hshorter]
          rfl
      · refine ih ⟨fun above habove hne => ?_, hsome⟩ hrest
        rcases List.prefix_concat_iff.mp habove with heq | habove
        · exact absurd heq hne
        · by_cases heq : above = place
          · rw [heq, hfolder]
          · exact hplace.folder above habove heq

/-- A path that leads to a place leads **anywhere**. -/
theorem hasPath_of_place (h : tree.place path = .ok place) : tree.hasPath path = true := by
  have hsome := ((reached_top tree).walk h).isSome
  obtain ⟨node, hnode⟩ := Option.isSome_iff_exists.mp hsome
  rw [hasPath, find, h]
  simp [hnode, Except.toBool]

/-- A path followed by another one leads **on from the place** to which it leads. -/
theorem place_of_append {folder other : Path} (h : tree.place (folder.append other) = .ok next) :
    ∃ place, tree.place folder = .ok place ∧ tree.walk folder place other.names = .ok next := by
  obtain ⟨place, hplace, hnext⟩ := walk_append_eq_ok.mp h
  exact ⟨place, (Keeps.refl [] tree).walk hplace, (Keeps.refl [] tree).walk hnext⟩

/-! ### What is in a folder -/

/-- What stands at a place is **among the nodes** of the tree, unless this is the top. -/
theorem mem_nodes_of_node? (hne : place ≠ []) (h : tree.node? place = some node) : (place, node) ∈ tree.nodes := by
  obtain ⟨name, names, rfl⟩ := List.exists_cons_of_ne_nil hne
  obtain ⟨front, back, hnodes, -⟩ := List.lookup_eq_some_iff.mp h
  rw [hnodes]
  exact List.mem_append_right _ List.mem_cons_self

/-- At the place of each node of the tree **something stands**. -/
theorem isSome_node?_of_mem (h : (place, node) ∈ tree.nodes) : (tree.node? place).isSome = true := by
  cases place with
  | nil => rfl
  | cons name names => exact List.lookup_isSome_iff.mpr ⟨_, h, beq_self_eq_true _⟩

/-- The nodes **below a path** are those whose places are longer than its place and begin with it. -/
theorem mem_below (h : tree.place path = .ok top) :
    (names, node) ∈ tree.below path ↔ names ≠ [] ∧ (top ++ names, node) ∈ tree.nodes := by
  rw [below, h]
  simp only [List.mem_filterMap]
  constructor
  · rintro ⟨⟨place, other⟩, hmem, hbelow⟩
    simp only at hbelow
    split at hbelow
    · next hlonger =>
      obtain ⟨rfl, rfl⟩ := Prod.mk.inj (Option.some.inj hbelow)
      rw [Bool.and_eq_true, List.isPrefixOf_iff_prefix, decide_eq_true_eq] at hlonger
      obtain ⟨⟨names, rfl⟩, hlength⟩ := hlonger
      rw [List.drop_left]
      refine ⟨?_, hmem⟩
      rintro rfl
      simp at hlength
    · exact absurd hbelow (by simp)
  · rintro ⟨hne, hmem⟩
    refine ⟨_, hmem, ?_⟩
    simp [hne]

/-- The names **in a folder** are the single names below it. -/
theorem mem_children : (name, node) ∈ tree.children path ↔ ([name], node) ∈ tree.below path := by
  rw [children, List.mem_filterMap]
  constructor
  · rintro ⟨⟨names, other⟩, hmem, hname⟩
    simp only at hname
    split at hname
    · obtain ⟨rfl, rfl⟩ := Prod.mk.inj (Option.some.inj hname)
      exact hmem
    · exact absurd hname (by simp)
  · intro hmem
    exact ⟨_, hmem, rfl⟩

/-! ### Paths through names -/

/-- A path followed by a text **denotes** the path followed by the one that the text denotes. -/
theorem ofText_joined (path name : Text) :
    Path.ofText (joined path name) = (Path.ofText path).append (Path.ofText name) := by
  unfold joined
  split
  · next hempty =>
    rw [List.isEmpty_iff.mp hempty]
    rfl
  · split
    · next hslash =>
      obtain ⟨front, rfl⟩ := List.getLast?_eq_some_iff.mp hslash
      have hnothing : Path.ofText [] = ⟨[]⟩ := rfl
      rw [List.append_assoc, List.singleton_append, Path.ofText_append, Path.ofText_append, hnothing, Path.append,
        Path.append, Path.append, List.append_nil]
    · exact Path.ofText_append path name

/-- A name with wildcards **counts**, and it is not the way up. -/
theorem counts_of_hasWildcards (h : hasWildcards name = true) : Path.counts name = true ∧ name ≠ ['.', '.'] := by
  refine ⟨?_, fun heq => absurd h (by rw [heq]; decide)⟩
  rw [Path.counts, Bool.and_eq_true, Bool.not_eq_true', List.isEmpty_eq_false_iff, bne_iff_ne]
  exact ⟨fun heq => absurd h (by rw [heq]; decide), fun heq => absurd h (by rw [heq]; decide)⟩

/-- **A path leads through its own name**, taken for wildcards, if the name has no brackets and no slashes. -/
theorem mem_through {path : Text} {foldersOnly : Bool} (hslash : '/' ∉ name) (hbracket : '[' ∉ name)
    (hne : name ≠ []) (hnext : tree.place (Path.ofText (joined path name)) = .ok next)
    (hfolder : foldersOnly = true → tree.node? next = some .folder) :
    joined path name ∈ tree.through foldersOnly name path := by
  rw [through, if_neg (by simpa using hne)]
  cases hwild : hasWildcards name with
  | false =>
      have hstars : name ≠ ['*', '*'] := fun heq => absurd hwild (by rw [heq]; decide)
      rw [if_neg hstars, if_neg Bool.false_ne_true, if_pos (hasPath_of_place hnext)]
      exact List.mem_singleton_self _
  | true =>
      -- the name stands in the folder to which the path leads
      obtain ⟨hcounts, hup⟩ := counts_of_hasWildcards hwild
      have hname : Path.ofText name = ⟨[name]⟩ := by
        have hnames := Path.names_ofText_of_notMem hslash
        rw [List.filter_cons_of_pos hcounts, List.filter_nil] at hnames
        rw [← hnames]
      rw [ofText_joined, hname] at hnext
      obtain ⟨top, hplace, -, hsome, rfl⟩ := (place_append_eq_ok hup).mp hnext
      obtain ⟨node, hnode⟩ := Option.isSome_iff_exists.mp hsome
      have hbelow : ([name], node) ∈ tree.below (Path.ofText path) :=
        (mem_below hplace).mpr ⟨List.cons_ne_nil _ _, mem_nodes_of_node? (by simp) hnode⟩
      have hadmitted : (!foldersOnly || node.isFolder) = true := by
        cases foldersOnly with
        | false => rfl
        | true => rw [Option.some.inj (hnode.symm.trans (hfolder rfl))]; rfl
      by_cases hstars : name = ['*', '*']
      · rw [if_pos hstars]
        refine List.mem_cons_of_mem _ (List.mem_filterMap.mpr ⟨_, hbelow, ?_⟩)
        have hshown : [name].any isHidden = false := by rw [hstars]; decide
        simp only [hshown, hadmitted]
        rfl
      · rw [if_neg hstars, if_pos rfl]
        refine List.mem_filterMap.mpr ⟨_, mem_children.mpr hbelow, ?_⟩
        simp only [hadmitted, Bool.and_not_self, WildcardPiece.agree_read_self hbracket]
        rfl

/-- Names that are **joined to a path** lead on from it by those that count. -/
theorem names_ofText_foldl_joined (path : Text) (h : ∀ name ∈ names, '/' ∉ name) :
    (Path.ofText (names.foldl joined path)).names = (Path.ofText path).names ++ names.filter Path.counts := by
  induction names generalizing path with
  | nil => exact (List.append_nil _).symm
  | cons name names ih =>
      obtain ⟨hname, hnames⟩ := List.forall_mem_cons.mp h
      rw [List.foldl_cons, ih _ hnames, ofText_joined, Path.append, Path.names_ofText_of_notMem hname,
        List.append_assoc, ← List.filter_append, List.singleton_append]

/-- **A path leads through its own names**, taken for wildcards, if these have no brackets and the last one counts.
The induction is on the names: all names but the last lead to folders, as the last one leads further. -/
theorem mem_throughAll {paths : List Text} {path : Text} (hpath : path ∈ paths)
    (hslash : ∀ name ∈ names, '/' ∉ name) (hbracket : ∀ name ∈ names, '[' ∉ name) (hne : ∀ name ∈ names, name ≠ [])
    (hlast : ∀ last ∈ names.getLast?, Path.counts last = true)
    (h : tree.place (Path.ofText (names.foldl joined path)) = .ok place) :
    names.foldl joined path ∈ tree.throughAll paths names := by
  induction names generalizing paths path with
  | nil => exact hpath
  | cons name rest ih =>
      obtain ⟨-, hslashes⟩ := List.forall_mem_cons.mp hslash
      rw [List.forall_mem_cons] at hbracket hne
      rw [throughAll, List.foldl_cons]
      have hrest : ∀ last ∈ rest.getLast?, Path.counts last = true := by
        intro last hmem
        refine hlast last ?_
        rw [List.getLast?_cons, Option.mem_def.mp hmem]
        rfl
      refine ih (List.mem_flatMap.mpr ⟨path, hpath, ?_⟩) hslashes hbracket.2 hne.2 hrest h
      -- the way goes on from where the name leads
      have hway : Path.ofText (rest.foldl joined (joined path name)) =
          (Path.ofText (joined path name)).append ⟨rest.filter Path.counts⟩ :=
        Path.eq_of_names (names_ofText_foldl_joined _ hslashes)
      rw [List.foldl_cons, hway] at h
      obtain ⟨next, hnext, hon⟩ := place_of_append h
      refine mem_through (hslash name List.mem_cons_self) hbracket.1 hne.1 hnext fun hmore => ?_
      have hmore : rest ≠ [] := by simpa using hmore
      have hcounting : rest.filter Path.counts ≠ [] :=
        List.ne_nil_of_mem (List.mem_filter.mpr ⟨List.getLast_mem hmore, hrest _ (List.getLast?_eq_some_getLast hmore)⟩)
      obtain ⟨first, others, hfilter⟩ := List.exists_cons_of_ne_nil hcounting
      rw [hfilter] at hon
      exact (walk_cons_eq_ok.mp hon).1

/-- A path with wildcards is expanded **from its first name with wildcards on**, if its last name is not empty. -/
theorem expand_eq {pattern : Text} {fixed others : List Text}
    (hfixed : (Text.splitOn (· == '/') pattern).takeWhile (fun name => !hasWildcards name) = fixed)
    (hothers : (Text.splitOn (· == '/') pattern).dropWhile (fun name => !hasWildcards name) = others)
    (hlast : others.getLast? ≠ some []) :
    tree.expand pattern = (((tree.throughAll [Text.join "/" (fixed.filter (!·.isEmpty))]
      (others.filter (!·.isEmpty))).filter (!·.isEmpty)).mergeSort Text.before).map Path.ofText := by
  simp only [expand, hfixed, hothers, if_neg hlast, List.append_nil]

/-- Names that count are **not empty**. -/
theorem filter_counts_filter (names : List Text) :
    (names.filter (!·.isEmpty)).filter Path.counts = names.filter Path.counts := by
  rw [List.filter_filter]
  refine List.filter_congr fun name _ => ?_
  cases name with
  | nil => rfl
  | cons c name => exact Bool.and_true _

/-- The last name, if it counts, is **still the last** without empty names. -/
theorem counts_getLast?_filter {others : List Text} (h : ∀ last ∈ others.getLast?, Path.counts last = true) :
    ∀ last ∈ (others.filter (!·.isEmpty)).getLast?, Path.counts last = true := by
  rcases List.eq_nil_or_concat others with rfl | ⟨front, last, rfl⟩
  · exact h
  · rw [List.concat_eq_append] at h ⊢
    have hlast : Path.counts last = true := h last (by rw [List.getLast?_concat]; rfl)
    have hkept : (!last.isEmpty) = true := (Bool.and_eq_true_iff.mp hlast).1
    rw [List.filter_append, List.filter_cons_of_pos (p := fun name : Text => !name.isEmpty) hkept, List.filter_nil,
      List.getLast?_concat]
    intro other hother
    rwa [← Option.some.inj (Option.mem_def.mp hother)]

/-- **A path is among those that it stands for**, taken for wildcards, if there is a file at it, it has no brackets and
its last name counts. -/
theorem mem_expand {pattern : Text} {content : FileContent} (hbracket : '[' ∉ pattern)
    (hlast : ∀ last ∈ (Text.splitOn (· == '/') pattern).getLast?, Path.counts last = true)
    (h : tree.read (Path.ofText pattern) = .ok content) : Path.ofText pattern ∈ tree.expand pattern := by
  obtain ⟨place, hplace, hfile⟩ := read_eq_ok.mp h
  -- the names are cut in front of the first one with wildcards
  generalize hfixed : (Text.splitOn (· == '/') pattern).takeWhile (fun name => !hasWildcards name) = fixed
  generalize hothers : (Text.splitOn (· == '/') pattern).dropWhile (fun name => !hasWildcards name) = others
  have hcut : Text.splitOn (· == '/') pattern = fixed ++ others := by
    rw [← hfixed, ← hothers, List.takeWhile_append_dropWhile]
  have hslash : ∀ name ∈ fixed ++ others, '/' ∉ name := fun name hname =>
    Path.notMem_of_mem_splitOn (hcut ▸ hname)
  have hopen : ∀ name ∈ fixed ++ others, '[' ∉ name := fun name hname hmem =>
    hbracket (Text.mem_of_mem_splitOn (hcut ▸ hname) hmem)
  have hlastcounts : ∀ last ∈ others.getLast?, Path.counts last = true := by
    intro last hmem
    refine hlast last ?_
    rw [hcut, List.getLast?_append, Option.mem_def.mp hmem]
    rfl
  -- the path of the names, put together again
  have hway : Path.ofText ((others.filter (!·.isEmpty)).foldl joined (Text.join "/" (fixed.filter (!·.isEmpty)))) =
      Path.ofText pattern := by
    have hfront : (Path.ofText (Text.join "/" (fixed.filter (!·.isEmpty)))).names = fixed.filter Path.counts := by
      rw [Path.names_ofText_join, filter_counts_filter]
      exact fun name hname => hslash name (List.mem_append_left _ (List.mem_filter.mp hname).1)
    have hall := names_ofText_foldl_joined (Text.join "/" (fixed.filter (!·.isEmpty))) fun name
      (hname : name ∈ others.filter (!·.isEmpty)) =>
        hslash name (List.mem_append_right _ (List.mem_filter.mp hname).1)
    rw [hfront, filter_counts_filter, ← List.filter_append, ← hcut, ← Path.names_ofText] at hall
    exact Path.eq_of_names hall
  rw [expand_eq hfixed hothers]
  · refine List.mem_map.mpr ⟨_, List.mem_mergeSort.mpr (List.mem_filter.mpr ⟨?_, ?_⟩), hway⟩
    · refine mem_throughAll (List.mem_singleton_self _) ?_ ?_ ?_ (counts_getLast?_filter hlastcounts) (hway ▸ hplace)
      · exact fun name hname => hslash name (List.mem_append_right _ (List.mem_filter.mp hname).1)
      · exact fun name hname => hopen name (List.mem_append_right _ (List.mem_filter.mp hname).1)
      · exact fun name hname => by simpa using (List.mem_filter.mp hname).2
    · -- nothing denotes the top, which is no file
      rw [Bool.not_eq_true', List.isEmpty_eq_false_iff]
      intro hnothing
      rw [hnothing] at hway
      have htop : tree.place (Path.ofText []) = .ok [] := rfl
      obtain rfl := Except.ok.inj (hplace.symm.trans (hway ▸ htop))
      exact absurd hfile (by simp [node?])
  · exact fun hnone => absurd (hlastcounts [] hnone) (by decide)

end FileTree

end PlainSpec
