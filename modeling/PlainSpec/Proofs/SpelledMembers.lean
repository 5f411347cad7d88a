import Mathlib.Data.List.Nodup
import PlainSpec.Proofs.SplitTexts
import PlainSpec.Proofs.WordsRead

/-!
# Ways of writing a member

The member of an enumeration is written as the words of its name. Their letters may be of either case, and there may
be any white space between two words, or none. The pattern of an enumeration describes what is written so, by the
alternative of the member, and matching finds this out even if another alternative matches first. The text is then
read by its letters alone. They are those of the name, whether its words are separated by underscores or begin with
capitals (`InlineKind.squash_phraseOf`). So the member is found where the names of all members are told apart by their
letters and digits.

## Main results

* `Spelling`: the ways of writing words.
* `Spelling.matches_words`: what is written is described by the pattern of the words.
* `InlineKind.squash_phraseOf`: the letters of a member are those of its name.
* `Catalog.convert_spelled_member`: what is written is matched, captured and converted to the member.
-/

namespace PlainSpec

/-! ### Letters of names -/

/-- What holds for the first **128 characters**. -/
theorem forall_ascii {P : Char → Prop} (h : ∀ n < 128, P (Char.ofNat n)) {c : Char} (hc : c.toNat < 128) : P c :=
  Char.ofNat_toNat c ▸ h c.toNat hc

/-- ASCII letters **fold by lowering**. -/
theorem folds_of_ascii {c : Char} (hc : c.toNat < 128) : FoldsByLowering c ∧ foldCase c = c.toLower :=
  forall_ascii (P := fun c => FoldsByLowering c ∧ foldCase c = c.toLower) (by decide +kernel) hc

/-- White space **folds by lowering**. -/
theorem foldsByLowering_of_isBlank {c : Char} (hc : isBlank c = true) : FoldsByLowering c := by
  have hall := forall_isBlank (p := fun c => decide (FoldsByLowering c)) (by decide +kernel) hc
  simpa using hall

/-- Characters that are **lowered alike** within ASCII are of ASCII both. -/
theorem lt_of_toLower_eq {a c : Char} (ha : a.toNat < 128) (h : c.toLower = a.toLower) : c.toNat < 128 := by
  have hlower : a.toLower.toNat < 128 := forall_ascii (P := fun a => a.toLower.toNat < 128) (by decide +kernel) ha
  rw [← h] at hlower
  unfold Char.toLower at hlower
  split at hlower
  · next hcapital => exact Nat.lt_of_le_of_lt (UInt32.le_iff_toNat_le.mp hcapital.2) (by decide)
  · exact hlower

/-- A **letter of a name**: an ASCII letter or digit, or an underscore. -/
def IsNameLetter (c : Char) : Prop := c.isAlphanum = true ∨ c = '_'

/-- A letter of a name is a character of ASCII, and it is **no white space**. -/
theorem IsNameLetter.ascii {c : Char} (hc : IsNameLetter c) : c.toNat < 128 ∧ isBlank c = false := by
  have hlt : c.toNat < 128 := by
    rcases hc with hc | rfl
    · unfold Char.isAlphanum Char.isAlpha Char.isUpper Char.isLower Char.isDigit at hc
      simp only [Bool.or_eq_true, Bool.and_eq_true, decide_eq_true_eq, UInt32.le_iff_toNat_le, ge_iff_le] at hc
      have hcode : c.toNat = c.val.toNat := rfl
      have hlast : 'Z'.val.toNat = 90 ∧ 'z'.val.toNat = 122 ∧ '9'.val.toNat = 57 := ⟨rfl, rfl, rfl⟩
      omega
    · decide
  exact ⟨hlt, forall_ascii (P := fun c => IsNameLetter c → isBlank c = false)
    (by unfold IsNameLetter; decide +kernel) hlt hc⟩

/-! ### Ways of writing words -/

/-- The **ways of writing words**: the letters of each in either case, and any white space between neighbours. -/
inductive Spelling : List Text → Text → Prop
  | nothing : Spelling [] []
  | word {w u : Text} : u.map Char.toLower = w.map Char.toLower → Spelling [w] u
  | words {w v u blanks t : Text} {rest : List Text} : u.map Char.toLower = w.map Char.toLower →
      (∀ c ∈ blanks, isBlank c = true) → Spelling (v :: rest) t → Spelling (w :: v :: rest) (u ++ (blanks ++ t))

/-- Texts that are lowered alike have **the same letters**, and they fold by lowering. -/
theorem sameLetters_of_toLower {w u : Text} (hw : ∀ c ∈ w, c.toNat < 128)
    (h : u.map Char.toLower = w.map Char.toLower) :
    Text.sameLetters w u = true ∧ ∀ c ∈ u, FoldsByLowering c := by
  have hu : ∀ c ∈ u, c.toNat < 128 := by
    intro c hc
    obtain ⟨a, ha, hlower⟩ := List.mem_map.mp (h ▸ List.mem_map_of_mem hc)
    exact lt_of_toLower_eq (hw a ha) hlower.symm
  have hfold : ∀ v : Text, (∀ c ∈ v, c.toNat < 128) → v.map foldCase = v.map Char.toLower :=
    fun v hv => List.map_congr_left fun c hc => (folds_of_ascii (hv c hc)).2
  refine ⟨?_, fun c hc => (folds_of_ascii (hu c hc)).1⟩
  rw [Text.sameLetters_iff_map, hfold w hw, hfold u hu, h]

/-- What is written is described by **the pattern of the words**, and its letters fold by lowering. -/
theorem Spelling.matches_words {ws : List Text} {t : Text} (h : Spelling ws t)
    (hws : ∀ w ∈ ws, ∀ c ∈ w, c.toNat < 128) :
    (Pattern.sequence ((ws.map Pattern.literal).intersperse (.chars .blank .many))).Matches t ∧
      ∀ c ∈ t, FoldsByLowering c := by
  induction h with
  | nothing => exact ⟨rfl, fun c hc => absurd hc List.not_mem_nil⟩
  | word hlower => exact sameLetters_of_toLower (hws _ List.mem_cons_self) hlower
  | words hlower hblanks _ ih =>
      obtain ⟨hw, hrest⟩ := List.forall_mem_cons.mp hws
      obtain ⟨hsame, hu⟩ := sameLetters_of_toLower hw hlower
      obtain ⟨hmatches, ht⟩ := ih hrest
      have hgap : ∀ c ∈ _, FoldsByLowering c := fun c hc => foldsByLowering_of_isBlank (hblanks c hc)
      refine ⟨?_, List.forall_mem_append.mpr ⟨hu, List.forall_mem_append.mpr ⟨hgap, ht⟩⟩⟩
      rw [List.map_cons, List.map_cons, List.intersperse_cons_cons, Pattern.matches_sequence_cons]
      exact ⟨_, _, rfl, hsame, Pattern.matches_sequence_cons.mpr
        ⟨_, _, rfl, Pattern.matches_blanks.mpr hblanks, hmatches⟩⟩

/-! ### Names and their words -/

/-- Cut before its capitals, a name **loses nothing**. -/
theorem flatten_splitAtCapitals (name : Text) : (splitAtCapitals name).flatten = name := by
  induction name using splitAtCapitals.induct with
  | case1 => rfl
  | case2 c => rfl
  | case3 c d rest hcapital ih => rw [splitAtCapitals, if_pos hcapital, List.flatten_cons, ih, List.singleton_append]
  | case4 c d rest hcapital ih => rw [splitAtCapitals, if_neg hcapital, Text.flatten_consHead, ih]

/-- Cut at its underscores, a name **loses these** and nothing else. -/
theorem flatten_splitAtUnderscores (name : Text) :
    (splitAtUnderscores name).flatten = name.filter (· != '_') := by
  have hparts : ((Text.splitOn (· == '_') name).filter (!·.isEmpty)).flatten = name.filter (· != '_') := by
    rw [List.flatten_filter_not_isEmpty, Text.flatten_splitOn]
    rfl
  rw [splitAtUnderscores, ← hparts]
  split
  · next hnone => rw [hnone]; rfl
  · rfl

/-- The words of a name **one after the other** are the name without underscores. -/
theorem flatten_nameWords (name : Text) : (nameWords name).flatten = name.filter (· != '_') := by
  rw [nameWords]
  split
  · exact flatten_splitAtUnderscores name
  · next hnone =>
    rw [flatten_splitAtCapitals, List.filter_eq_self.mpr]
    intro c hc
    refine bne_iff_ne.mpr ?_
    rintro rfl
    exact hnone (by simpa using hc)

/-- White space between texts does not count **where white space is left out**. -/
theorem filter_join_blank (ts : List Text) :
    (Text.join " " ts).filter (fun c => !isBlank c) = ts.flatten.filter fun c => !isBlank c := by
  induction ts with
  | nil => rfl
  | cons t ts ih =>
      cases ts with
      | nil => rw [List.flatten_singleton]; rfl
      | cons u ts =>
          have hblank : (" " : Text).filter (fun c => !isBlank c) = [] := rfl
          rw [Text.join_cons_cons, List.filter_append, List.filter_append, ih, hblank, List.append_nil,
            ← List.filter_append]
          rfl

/-- Without white space the phrase of a name is the name **without underscores**. -/
theorem filter_phraseOf {name : Text} (hname : ∀ c ∈ name, IsNameLetter c) :
    (phraseOf name).filter (fun c => !isBlank c) = name.filter (· != '_') := by
  rw [phraseOf, filter_join_blank, flatten_nameWords, List.filter_eq_self.mpr]
  intro c hc
  rw [(hname c (List.mem_of_mem_filter hc)).ascii.2]
  rfl

/-- A word of the phrase of a name has **letters of the name** only. -/
theorem mem_of_mem_words_phraseOf {name w : Text} (hname : ∀ c ∈ name, IsNameLetter c)
    (hw : w ∈ Text.words (phraseOf name)) {c : Char} (hc : c ∈ w) : c ∈ name := by
  have hmem : c ∈ (Text.words (phraseOf name)).flatten := List.mem_flatten_of_mem hw hc
  rw [Text.flatten_words, filter_phraseOf hname] at hmem
  exact List.mem_of_mem_filter hmem

/-! ### Members -/

/-- The **letters and digits** of a name, in lower case. -/
def memberKey (name : Text) : Text := (name.filter (· != '_')).map Char.toLower

/-- **The letters of a member** are the letters and digits of its name. -/
theorem InlineKind.squash_phraseOf {name : Text} (hname : ∀ c ∈ name, IsNameLetter c) :
    squash (phraseOf name) = memberKey name := by
  have hascii : ∀ c ∈ name.filter (· != '_'), c.toNat < 128 :=
    fun c hc => (hname c (List.mem_of_mem_filter hc)).ascii.1
  rw [squash, filter_phraseOf hname, Text.lower_eq_map fun c hc => (folds_of_ascii (hascii c hc)).1, memberKey]
  exact List.map_congr_left fun c hc => (folds_of_ascii (hascii c hc)).2

/-- An enumeration whose members are **told apart by their letters**: their names are made of ASCII letters, digits
and underscores, and no two have the same letters and digits in the same order, whatever their case. -/
structure Enumeration.ToldApart (e : Enumeration) : Prop where
  letters : ∀ member ∈ e.members, ∀ c ∈ member.1, IsNameLetter c
  apart : (e.members.map fun member => memberKey member.1).Nodup

variable {e : Enumeration} {member : Text × Text} {t : Text}

/-- What is written for a member is described by **the member's alternative**, and its letters are the member's. -/
theorem Enumeration.ToldApart.matches_spelling (he : e.ToldApart) (hmember : member ∈ e.members)
    (ht : Spelling (Text.words (phraseOf member.1)) t) :
    (InlineKind.memberPattern member.1).Matches t ∧ InlineKind.squash t = memberKey member.1 := by
  have hname := he.letters member hmember
  have hwords : ∀ w ∈ Text.words (phraseOf member.1), ∀ c ∈ w, c.toNat < 128 :=
    fun w hw c hc => (hname c (mem_of_mem_words_phraseOf hname hw hc)).ascii.1
  obtain ⟨hmatches, hfolds⟩ := ht.matches_words hwords
  refine ⟨hmatches, ?_⟩
  have hphrase : ∀ c ∈ phraseOf member.1, FoldsByLowering c := by
    intro c hc
    cases hblank : isBlank c with
    | true => exact foldsByLowering_of_isBlank hblank
    | false =>
        have hmem : c ∈ (phraseOf member.1).filter fun c => !isBlank c :=
          List.mem_filter.mpr ⟨hc, by simp [hblank]⟩
        rw [filter_phraseOf hname] at hmem
        exact (folds_of_ascii (hname c (List.mem_of_mem_filter hmem)).ascii.1).1
  rw [← InlineKind.squash_phraseOf hname, InlineKind.squash_eq_of_matches hphrase hfolds hmatches]

/-- **Reading finds the member** that is written. -/
theorem Enumeration.ToldApart.readMember_spelling (he : e.ToldApart) (hmember : member ∈ e.members)
    (ht : Spelling (Text.words (phraseOf member.1)) t) :
    InlineKind.readMember e t = .ok (.member member.2) := by
  have hkey := (he.matches_spelling hmember ht).2
  have hself := (InlineKind.squash_phraseOf (he.letters member hmember)).trans hkey.symm
  have hsome : (e.members.find? fun member => InlineKind.squash (phraseOf member.1) == InlineKind.squash t).isSome :=
    List.find?_isSome.mpr ⟨member, hmember, beq_iff_eq.mpr hself⟩
  obtain ⟨found, hfind⟩ := Option.isSome_iff_exists.mp hsome
  have hfound := List.mem_of_find?_eq_some hfind
  have hsame : InlineKind.squash (phraseOf found.1) = InlineKind.squash t := by simpa using List.find?_some hfind
  rw [InlineKind.squash_phraseOf (he.letters found hfound), hkey] at hsame
  obtain rfl : found = member := List.inj_on_of_nodup_map he.apart hfound hmember hsame
  rw [InlineKind.readMember, hfind]

/-- **Every way of writing a member reads back as the member**, in an enumeration whose members are told apart by
their letters: the pattern of the enumeration matches the whole text, captures all of it, and the text is converted to
the member. -/
theorem Catalog.convert_spelled_member (he : e.ToldApart) (hmember : member ∈ e.members)
    (ht : Spelling (Text.words (phraseOf member.1)) t) {name : Text} (hname : isIdentifier name = true) :
    ∃ way, standard.fullMatch? (some (.enum e)) name t = some way ∧ way.captured? name = some t ∧
      standard.convert (some (.enum e)) (some t) = .ok (.member member.2) := by
  have hbracket := not_mem_of_isIdentifier hname
  have hsome : (standard.fullMatch? (some (.enum e)) name t).isSome = true := by
    have hne : e.members.map (fun member => InlineKind.memberPattern member.1) ≠ [] := by
      simpa using List.ne_nil_of_mem hmember
    have hpattern : InlineKind.enumeration.pattern (some (.enum e)) false name =
        .named name (.oneOf (e.members.map fun member => InlineKind.memberPattern member.1)) := rfl
    rw [fullMatch?_required rfl rfl, Pattern.fullMatch?_isSome_iff, hpattern, Pattern.named_eq_capture hbracket]
    exact (Pattern.matches_oneOf_iff hne).mpr ⟨_, List.mem_map_of_mem hmember, (he.matches_spelling hmember ht).1⟩
  obtain ⟨way, hway⟩ := Option.isSome_iff_exists.mp hsome
  refine ⟨way, hway, (captured_of_fullMatch? hbracket rfl rfl rfl hway).2, ?_⟩
  rw [convert_required rfl rfl, InlineKind.read, he.readMember_spelling hmember ht]
  rfl

/-- An enumeration with names of **all kinds**: the first is the beginning of the second, and the third is another name
of it. -/
def reds : Enumeration := ⟨"Red", [("Dark", "Dark"), ("DarkRed", "DarkRed"), ("deep_RED__2", "DarkRed")], []⟩

/-- A member is read whose **words are apart** by a tab and by nothing. -/
theorem Catalog.convert_spelled_member_reds :
    reds.ToldApart ∧ Text.words (phraseOf "deep_RED__2") = [("deep" : Text), ("RED" : Text), ("2" : Text)] ∧
      ∃ way, standard.fullMatch? (some (.enum reds)) "value" "DEEP\tred2" = some way ∧
        way.captured? "value" = some "DEEP\tred2" ∧
        standard.convert (some (.enum reds)) (some "DEEP\tred2") = .ok (.member "DarkRed") := by
  have hletters : ∀ member ∈ reds.members, member.1.Forall IsNameLetter := by unfold IsNameLetter; decide
  have he : reds.ToldApart :=
    ⟨fun member hmember => List.forall_iff_forall_mem.mp (hletters member hmember), by decide⟩
  have hmember : (("deep_RED__2" : Text), ("DarkRed" : Text)) ∈ reds.members := by decide
  have hwords : Text.words (phraseOf "deep_RED__2") = [("deep" : Text), ("RED" : Text), ("2" : Text)] := by decide
  have htail : Spelling [("RED" : Text), ("2" : Text)] (("red" : Text) ++ (([] : Text) ++ ("2" : Text))) :=
    .words (by decide) (fun c hc => absurd hc List.not_mem_nil) (.word (by decide))
  have hspelling : Spelling (Text.words (phraseOf "deep_RED__2")) "DEEP\tred2" := by
    rw [hwords]
    have hblank : ∀ c ∈ ['\t'], isBlank c = true := List.forall_mem_singleton.mpr (by decide)
    exact Spelling.words (u := "DEEP") (by decide) hblank htail
  exact ⟨he, hwords, convert_spelled_member he hmember hspelling (by decide)⟩

end PlainSpec
