import PlainSpec.Proofs.LetterVariants
import PlainSpec.Proofs.Tokens
import PlainSpec.Proofs.WhiteSpace
import PlainSpec.Proofs.WholeTexts

/-!
# How captured words are read

Truth values, members of an enumeration and texts are recognised by a pattern and then read once more by rules of
their own: by their lower case, without white space, and by their first and last characters. What is captured is the
whole text in each case. Reading finds the alternative that has captured a truth value unless a long s is in it. It
finds one that describes the text of a member, if letters fold by lowering and no two members have the same letters
but other words; and it leaves a text alone unless the same mark begins and ends it, whatever is in between.

## Main results

* `contains_trueWords_iff`: which texts are read as true.
* `InlineKind.readMember_eq`: a member whose own alternative describes the text.
* `Value.readText_eq`: a text without the marks around it.
* `Catalog.convert_captured_word`: what captured words are converted to.
-/

namespace PlainSpec

variable {t : Text}

/-! ### Truth values -/

/-- **Which texts are read as true**: those that a word for it describes, unless they are spelled with a long s. -/
theorem contains_trueWords_iff :
    trueWords.contains (Text.lower t) = true ↔
      (∃ w ∈ trueWords, (Pattern.literal w).Matches t) ∧ 'ſ' ∉ t := by
  have hwords : ∀ w ∈ trueWords, 'i' ∉ w ∧ 'ſ' ∉ w ∧ Text.lower w = w ∧ w.Forall fun a => FoldsByLowering a ∧
      foldCase a ≠ 'i' ∧ foldCase a ≠ 'σ' ∧
        ∀ entry ∈ letterVariants, Char.ofNat entry.2 = foldCase a → entry.1 = ('ſ').toNat := by decide
  rw [List.contains_iff_mem]
  constructor
  · intro hmem
    obtain ⟨hdotted, hlong, -, -⟩ := hwords _ hmem
    refine ⟨⟨_, hmem, Text.sameLetters_of_lower_eq hdotted rfl⟩, fun hc => hlong ?_⟩
    refine Text.mem_lower_of_mem hc fun before after => ?_
    rw [Text.lowerWithin_eq_self (by decide)]
    exact List.mem_cons_self
  · rintro ⟨⟨w, hw, hmatches⟩, hlong⟩
    obtain ⟨-, -, hlower, hletters⟩ := hwords w hw
    rw [List.forall_iff_forall_mem] at hletters
    have hfolds : ∀ c ∈ t, FoldsByLowering c := by
      intro c hc
      obtain ⟨a, ha, hsame⟩ := Text.exists_sameLetter hmatches hc
      obtain ⟨-, hdotted, hsigma, hvariants⟩ := hletters a ha
      refine foldsByLowering_of_sameLetter hsame hdotted hsigma fun entry hentry heq hkey => hlong ?_
      have hlow : lowerChar c = 'ſ' := Char.toNat_inj.mp (hkey.trans (hvariants entry hentry heq))
      exact eq_of_lowerChar_eq (by decide) (by decide +kernel) hlow ▸ hc
    rw [← (Text.lower_eq_lower_iff (fun a ha => (hletters a ha).1) hfolds).mpr hmatches, hlower]
    exact hw

/-! ### Members -/

namespace Text

/-- Texts with the same letters, **one after the other**. -/
theorem sameLetters_append {u v u' v' : Text} (h : sameLetters u u' = true) (h' : sameLetters v v' = true) :
    sameLetters (u ++ v) (u' ++ v') = true := by
  rw [sameLetters_iff_map, List.map_append, List.map_append, sameLetters_iff_map.mp h, sameLetters_iff_map.mp h']

end Text

/-- What words with white space between them describe has **the letters of the words**. -/
theorem sameLetters_of_matches_words {ws : List Text} (hws : ∀ w ∈ ws, ∀ c ∈ w, isBlank c = false)
    (h : (Pattern.sequence ((ws.map Pattern.literal).intersperse (.chars .blank .many))).Matches t) :
    Text.sameLetters ws.flatten (t.filter fun c => !isBlank c) = true := by
  have hink : ∀ {w u : Text}, (∀ c ∈ w, isBlank c = false) → Text.sameLetters w u = true →
      (u.filter fun c => !isBlank c) = u := by
    intro w u hw hsame
    refine List.filter_eq_self.mpr fun c hc => ?_
    obtain ⟨a, ha, hletter⟩ := Text.exists_sameLetter hsame hc
    rw [← isBlank_eq_of_sameLetter hletter, hw a ha]
    rfl
  induction ws generalizing t with
  | nil =>
      obtain rfl : t = [] := h
      rfl
  | cons w rest ih =>
      obtain ⟨hw, hrest⟩ := List.forall_mem_cons.mp hws
      cases rest with
      | nil =>
          have hsame : Text.sameLetters w t = true := h
          rw [List.flatten_singleton, hink hw hsame]
          exact hsame
      | cons v rest =>
          rw [List.map_cons, List.map_cons, List.intersperse_cons_cons, Pattern.matches_sequence_cons] at h
          obtain ⟨u, after, rfl, hsame, hafter⟩ := h
          obtain ⟨blanks, behind, rfl, hblanks, hbehind⟩ := Pattern.matches_sequence_cons.mp hafter
          have hnone : (blanks.filter fun c => !isBlank c) = [] :=
            List.filter_eq_nil_iff.mpr fun c hc => by simp [Pattern.matches_blanks.mp hblanks c hc]
          rw [List.flatten_cons, List.filter_append, List.filter_append, hnone, List.nil_append, hink hw hsame]
          exact Text.sameLetters_append hsame (ih hrest hbehind)

/-- An enumeration can be **read by letters** where there are members, the letters of their names and of the text
fold by lowering, and members with the same letters have the same words. -/
structure Enumeration.ReadByLetters (e : Enumeration) (t : Text) : Prop where
  nonempty : e.members ≠ []
  foldsText : ∀ c ∈ t, FoldsByLowering c
  foldsNames : ∀ member ∈ e.members, ∀ c ∈ phraseOf member.1, FoldsByLowering c
  apart : ∀ member ∈ e.members, ∀ other ∈ e.members,
    InlineKind.squash (phraseOf member.1) = InlineKind.squash (phraseOf other.1) →
      Text.words (phraseOf member.1) = Text.words (phraseOf other.1)

namespace InlineKind

variable {e : Enumeration}

/-- Where letters fold by lowering, what a member's alternative describes has **the member's letters**. -/
theorem squash_eq_of_matches {name : Text} (hname : ∀ c ∈ phraseOf name, FoldsByLowering c)
    (ht : ∀ c ∈ t, FoldsByLowering c) (h : (memberPattern name).Matches t) : squash (phraseOf name) = squash t := by
  have hsame := sameLetters_of_matches_words (fun w hw => (Text.mem_words hw).2) h
  rw [Text.flatten_words] at hsame
  exact (Text.lower_eq_lower_iff (fun c hc => hname c (List.mem_of_mem_filter hc))
    fun c hc => ht c (List.mem_of_mem_filter hc)).mpr hsame

/-- **Reading a member finds one whose own alternative describes the text.** It is the first one with the letters of
the text, which may not be the one that has matched but has the same words. -/
theorem readMember_eq (h : e.ReadByLetters t)
    (hmatches : (Pattern.oneOf (e.members.map fun member => memberPattern member.1)).Matches t) :
    ∃ member ∈ e.members, readMember e t = .ok (.member member.2) ∧ (memberPattern member.1).Matches t := by
  rw [Pattern.matches_oneOf_iff (by simpa using h.nonempty)] at hmatches
  obtain ⟨p, hp, hmatches⟩ := hmatches
  obtain ⟨matched, hmatched, rfl⟩ := List.mem_map.mp hp
  have hsquash := squash_eq_of_matches (h.foldsNames matched hmatched) h.foldsText hmatches
  have hfound : (e.members.find? fun member => squash (phraseOf member.1) == squash t).isSome = true :=
    List.find?_isSome.mpr ⟨matched, hmatched, beq_iff_eq.mpr hsquash⟩
  obtain ⟨member, hfind⟩ := Option.isSome_iff_exists.mp hfound
  have hmember := List.mem_of_find?_eq_some hfind
  have hsame : squash (phraseOf member.1) = squash t := by simpa using List.find?_some hfind
  refine ⟨member, hmember, ?_, ?_⟩
  · rw [readMember, hfind]
  · rw [memberPattern, h.apart member hmember matched hmatched (hsame.trans hsquash.symm)]
    exact hmatches

end InlineKind

/-! ### Texts -/

/-- A text is read **without the marks around it**, if the same mark begins and ends it, or else as it is. -/
theorem Value.readText_eq (t : Text) :
    (∃ mark s, IsMark mark ∧ t = mark :: (s ++ [mark]) ∧ readText t = .text s) ∨
      (∀ mark s, IsMark mark → t ≠ mark :: (s ++ [mark])) ∧ readText t = .text t := by
  cases t with
  | nil => exact .inr ⟨fun mark s _ => (List.cons_ne_nil _ _).symm, rfl⟩
  | cons c rest =>
      by_cases hquoted : IsMark c ∧ rest.getLast? = some c
      · obtain ⟨hmark, hlast⟩ := hquoted
        have hrest := List.dropLast_append_getLast? c hlast
        refine .inl ⟨c, rest.dropLast, hmark, by rw [hrest], ?_⟩
        have htest : (decide (c = '"') || decide (c = '\'')) = true := by simpa [IsMark] using hmark
        rw [readText, if_pos (by simp [htest, hlast])]
      · refine .inr ⟨?_, ?_⟩
        · intro mark s hmark heq
          obtain ⟨rfl, rfl⟩ := List.cons.inj heq
          exact hquoted ⟨hmark, List.getLast?_concat⟩
        · have htest : ¬ ((decide (c = '"') || decide (c = '\'')) && decide (rest.getLast? = some c)) = true := by
            simpa [IsMark] using hquoted
          rw [readText, if_neg htest]

/-! ### Captured words -/

/-- **What captured words are converted to.** A capture takes the whole text. A truth value is true if a word for it
describes the text and no long s is in it; a member is found, and its own alternative describes the text, if the
enumeration can be read by letters; and a text is what stands between its marks, if the same mark begins and ends it,
or else the text itself. -/
theorem Catalog.convert_captured_word {name : Text} (hname : isIdentifier name = true) (t : Text) :
    (∀ way, standard.fullMatch? (some .bool) name t = some way → way.captured? name = some t ∧
      ∃ b, standard.convert (some .bool) (some t) = .ok (.bool b) ∧
        (b = true ↔ (∃ w ∈ trueWords, (Pattern.literal w).Matches t) ∧ 'ſ' ∉ t)) ∧
    (∀ e way, standard.fullMatch? (some (.enum e)) name t = some way → way.captured? name = some t ∧
      (e.ReadByLetters t → ∃ member ∈ e.members,
        standard.convert (some (.enum e)) (some t) = .ok (.member member.2) ∧
          (InlineKind.memberPattern member.1).Matches t)) ∧
    (∀ way, standard.fullMatch? (some .text) name t = some way → way.captured? name = some t ∧
      ((∃ mark s, IsMark mark ∧ t = mark :: (s ++ [mark]) ∧
          standard.convert (some .text) (some t) = .ok (.text s)) ∨
        (∀ mark s, IsMark mark → t ≠ mark :: (s ++ [mark])) ∧
          standard.convert (some .text) (some t) = .ok (.text t))) := by
  have hbracket := not_mem_of_isIdentifier hname
  refine ⟨fun way hway => ?_, fun e way hway => ?_, fun way hway => ?_⟩
  · refine ⟨(captured_of_fullMatch? hbracket rfl rfl rfl hway).2, _, ?_, contains_trueWords_iff⟩
    rw [convert_required rfl rfl]
    rfl
  · obtain ⟨hinner, hcaptured⟩ := captured_of_fullMatch? hbracket rfl rfl rfl hway
    refine ⟨hcaptured, fun hread => ?_⟩
    obtain ⟨member, hmember, hvalue, hmatches⟩ := InlineKind.readMember_eq hread hinner
    refine ⟨member, hmember, ?_, hmatches⟩
    rw [convert_required rfl rfl, InlineKind.read, hvalue]
    rfl
  · refine ⟨(captured_of_fullMatch? hbracket rfl rfl rfl hway).2, ?_⟩
    have hconvert : standard.convert (some .text) (some t) = .ok (Value.readText t) := by
      rw [convert_required rfl rfl]
      rfl
    rw [hconvert]
    rcases Value.readText_eq t with ⟨mark, s, hmark, ht, hread⟩ | ⟨hnone, hread⟩
    · exact .inl ⟨mark, s, hmark, ht, by rw [hread]⟩
    · exact .inr ⟨hnone, by rw [hread]⟩

/-- An enumeration of **two colours**. -/
def colours : Enumeration := ⟨"Colour", [("DarkRed", "DarkRed"), ("Blue", "Blue")], []⟩

/-- The word for true in capitals, **a colour in two words**, and a text in quotation marks. -/
theorem Catalog.convert_captured_word_read :
    (∃ b, standard.convert (some .bool) (some "ON") = .ok (.bool b) ∧ b = true) ∧
    (∃ member ∈ colours.members, standard.convert (some (.enum colours)) (some "dark RED") = .ok (.member member.2) ∧
      (InlineKind.memberPattern member.1).Matches "dark RED") ∧
    (∃ s, standard.convert (some .text) (some "'two words'") = .ok (.text s)) := by
  have hname : isIdentifier "value" = true := by decide
  refine ⟨?_, ?_, ?_⟩
  · obtain ⟨-, b, hconvert, hb⟩ := (convert_captured_word hname "ON").1 ⟨[], [⟨"value", "ON", []⟩]⟩ (by decide)
    exact ⟨b, hconvert, hb.mpr ⟨⟨"on", by decide, by rfl⟩, by decide⟩⟩
  · have hnames : ∀ member ∈ colours.members, (phraseOf member.1).Forall FoldsByLowering := by decide
    have hread : colours.ReadByLetters "dark RED" :=
      ⟨by decide, List.forall_iff_forall_mem.mp (by decide),
        fun member hmember => List.forall_iff_forall_mem.mp (hnames member hmember), by decide⟩
    exact ((convert_captured_word hname "dark RED").2.1 colours ⟨[], [⟨"value", "dark RED", []⟩]⟩ (by decide)).2 hread
  · obtain ⟨-, ⟨-, s, -, -, hconvert⟩ | ⟨hnone, -⟩⟩ :=
      (convert_captured_word hname "'two words'").2.2 ⟨[], [⟨"value", "'two words'", []⟩]⟩ (by decide)
    · exact ⟨s, hconvert⟩
    · exact absurd rfl (hnone '\'' "two words" (.inr rfl))

/-- **Words that are not read as they are matched**: a word for true with a long s is read as false, a member that is
spelled so is not found, nor is one where there is none; a member with the same letters but other words is read
instead; and a run of characters loses the marks at its ends. -/
theorem Catalog.words_read_otherwise :
    (((Pattern.literal "yes").fullMatch? "yeſ").isSome = true ∧
      (standard.fullMatch? (some .bool) "value" "yeſ").isSome = true ∧
      standard.convert (some .bool) (some "yeſ") = .ok (.bool false)) ∧
    ((standard.fullMatch? (some (.enum ⟨"Reply", [("Yes", "Yes")], []⟩)) "value" "yeſ").isSome = true ∧
      standard.convert (some (.enum ⟨"Reply", [("Yes", "Yes")], []⟩)) (some "yeſ") =
        .error (.conversion (.value (.notMember "yeſ" "Reply")))) ∧
    ((standard.fullMatch? (some (.enum ⟨"Empty", [], []⟩)) "value" []).isSome = true ∧
      standard.convert (some (.enum ⟨"Empty", [], []⟩)) (some []) =
        .error (.conversion (.value (.notMember [] "Empty")))) ∧
    (((InlineKind.memberPattern "ab").fullMatch? "a b").isSome = false ∧
      (standard.fullMatch? (some (.enum ⟨"Mark", [("ab", "ab"), ("a_b", "a_b")], []⟩)) "value" "a b").isSome = true ∧
      standard.convert (some (.enum ⟨"Mark", [("ab", "ab"), ("a_b", "a_b")], []⟩)) (some "a b") =
        .ok (.member "ab")) ∧
    ((Pattern.chars .ink .some).fullMatch? "\"a\"b\"").isSome = true ∧
      standard.convert (some .text) (some "\"a\"b\"") = .ok (.text "a\"b") := by
  refine ⟨⟨?_, ?_, rfl⟩, ⟨?_, rfl⟩, ⟨?_, rfl⟩, ⟨?_, ?_, rfl⟩, ?_, rfl⟩ <;> decide

end PlainSpec
