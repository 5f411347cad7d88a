import PlainSpec.Proofs.KeptPatterns
import PlainSpec.Proofs.LineKinds
import PlainSpec.Proofs.NamedPhrases
import PlainSpec.Proofs.PhraseReading
import PlainSpec.Proofs.SpelledMembers
import PlainSpec.Proofs.StepBodies

/-!
# The kind word of a name

A name announces a step if it begins with the word of a kind, and an underscore or a capital comes next. To find the
phrase of the step the name is cut into words, and the first word of the phrase is dropped if it is the word of a
kind. So the name is looked at twice, and the two agree if the kind word becomes a word of its own when the name is
cut. An underscore behind it always cuts it off (`splitAtUnderscores_append`), and a capital does if the name is cut at
its capitals (`splitAtCapitals_append`). But a name with an underscore anywhere is not cut at its capitals. Then the
first word goes on behind the kind word, and nothing is dropped.

## Main results

* `exists_kindWord`: a name that announces a step is a kind word, an underscore or a capital, and something behind it.
* `KindWord.lower_phraseOf`: a kind word that is cut off is followed by the phrase without it.
* `phraseOf_kindWord`: when the phrase is found behind the kind word, and what a definition with the name matches.
-/

namespace PlainSpec

/-! ### Kind words -/

/-- The ways in which a name **spells the word of a kind**: in small letters, or with a capital in front. -/
def StepKind.openings (kind : StepKind) : List Text :=
  match kind.word with
  | [] => []
  | k :: ks => [k :: ks, k.toUpper :: ks]

/-- A text that spells **the word of a kind** at the beginning of a name. -/
structure KindWord (kind : StepKind) (w : Text) : Prop where
  customary : kind ∈ StepKind.all
  lowered : Text.lower w = kind.word
  length_eq : w.length = kind.word.length
  same : Text.sameLetters kind.word w = true
  apart : ∀ other ∈ StepKind.all, other ≠ kind → Text.clash w (other.word ++ " ") = true
  joinable : '_' ∉ w
  small : ∀ c ∈ w.tail, isCapital c = false
  nonempty : w ≠ []

/-- The words of the customary kinds are **spelled** in each of the two ways. -/
theorem kindWord_of_mem {kind : StepKind} (hkind : kind ∈ StepKind.all) {w : Text} (hw : w ∈ kind.openings) :
    KindWord kind w := by
  have hlowered : ∀ kind ∈ StepKind.all, ∀ w ∈ kind.openings,
      Text.lower w = kind.word ∧ w.length = kind.word.length ∧ Text.sameLetters kind.word w = true := by decide
  have hapart : ∀ kind ∈ StepKind.all, ∀ w ∈ kind.openings,
      ∀ other ∈ StepKind.all, other ≠ kind → Text.clash w (other.word ++ " ") = true := by decide
  have hjoinable : ∀ kind ∈ StepKind.all, ∀ w ∈ kind.openings, '_' ∉ w ∧ w ≠ [] := by decide
  have hsmall : ∀ kind ∈ StepKind.all, ∀ w ∈ kind.openings, (w.tail.all fun c => !isCapital c) = true := by decide
  obtain ⟨hlower, hlength, hsame⟩ := hlowered kind hkind w hw
  obtain ⟨hmark, hne⟩ := hjoinable kind hkind w hw
  exact ⟨hkind, hlower, hlength, hsame, hapart kind hkind w hw, hmark, by simpa using hsmall kind hkind w hw, hne⟩

/-- What follows a beginning is **the rest of the text**. -/
theorem Text.afterPrefix?_eq_some_iff {p t rest : Text} : afterPrefix? p t = some rest ↔ t = p ++ rest := by
  induction p generalizing t with
  | nil => rw [afterPrefix?, Option.some.injEq, List.nil_append]
  | cons a p ih =>
      cases t with
      | nil => simp [afterPrefix?]
      | cons b t =>
          rw [afterPrefix?]
          split
          · next heq => rw [ih, List.cons_append, List.cons.injEq, and_iff_right heq.symm]
          · next hne => simp [Ne.symm hne]

/-- **A name that announces a step** is a kind word, an underscore or a capital, and anything behind it. -/
theorem exists_kindWord {name : Text} (h : announcesStep name = true) :
    ∃ w c rest, name = w ++ c :: rest ∧ KindWord (kindOfName name) w ∧ (c = '_' ∨ isCapital c = true) := by
  unfold announcesStep at h
  unfold kindOfName at h ⊢
  simp only at h ⊢
  generalize hfound : StepKind.all.find? _ = found at h ⊢
  cases found with
  | none => exact absurd h (by decide)
  | some kind =>
      have hkind : kind ∈ StepKind.all := List.mem_of_find?_eq_some hfound
      have hstarts := List.find?_some hfound
      rw [Option.getD_some]
      cases hword : kind.word with
      | nil => simp [hword] at hstarts
      | cons k ks =>
          cases name with
          | nil => simp [hword] at hstarts
          | cons c cs =>
              simp only [hword, Bool.and_eq_true, Bool.or_eq_true, beq_iff_eq] at hstarts
              obtain ⟨hc, hafter⟩ := hstarts
              split at hafter
              · next d rest hrest =>
                have hopening : c :: ks ∈ kind.openings := by
                  rw [StepKind.openings, hword]
                  simpa using hc
                rw [Text.afterPrefix?_eq_some_iff.mp hrest]
                exact ⟨c :: ks, d, rest, rfl, kindWord_of_mem hkind hopening, by simpa using hafter⟩
              · exact absurd hafter (by simp)

namespace KindWord

variable {kind : StepKind} {w : Text}

/-- What is dropped in front of a text that begins with a kind word is decided **behind the kind word**. -/
theorem dropKindWord_append (h : KindWord kind w) (t : Text) :
    dropKindWord (w ++ t) = (Text.afterPrefixFold? " " t).getD (w ++ t) := by
  have hsome : (Text.afterPrefixFold? w (w ++ t)).isSome = true := by rw [Text.afterPrefixFold?_append]; rfl
  have hothers : ∀ other ∈ StepKind.all, other ≠ kind →
      Text.afterPrefixFold? (other.word ++ " ") (w ++ t) = none := fun other hother hne =>
    Text.not_begins_of_clash (h.apart other hother hne) hsome
  have hself : Text.afterPrefixFold? (kind.word ++ " ") (w ++ t) = Text.afterPrefixFold? " " t :=
    Text.afterPrefixFold?_append_append h.same _ t
  rw [dropKindWord]
  cases hafter : Text.afterPrefixFold? " " t with
  | some rest =>
      rw [findSome?_eq_of_unique h.customary (hself.trans hafter) fun other hother hne =>
        hothers other hother hne]
  | none =>
      have hnone : StepKind.all.findSome? (fun kind => Text.afterPrefixFold? (kind.word ++ " ") (w ++ t)) = none := by
        refine List.findSome?_eq_none_iff.mpr fun other hother => ?_
        by_cases heq : other = kind
        · rw [heq, hself, hafter]
        · exact hothers other hother heq
      rw [hnone]

end KindWord

/-! ### Cutting a name into words -/

/-- The parts of a name **between its underscores** that are not empty. -/
def underscoreParts (name : Text) : List Text := (Text.splitOn (· == '_') name).filter (!·.isEmpty)

/-- A name **without underscores** is its only part. -/
theorem underscoreParts_eq_self {name : Text} (h : '_' ∉ name) (hne : name ≠ []) : underscoreParts name = [name] := by
  have hname : ∀ c ∈ name, (c == '_') = false := fun c hc => beq_eq_false_iff_ne.mpr fun heq => h (heq ▸ hc)
  rw [underscoreParts, Text.splitOn_eq_self hname, List.filter_cons_of_pos (by simpa using hne), List.filter_nil]

/-- A word is the part **in front of an underscore**. -/
theorem underscoreParts_append_cons {w : Text} (hw : '_' ∉ w) (hne : w ≠ []) (rest : Text) :
    underscoreParts (w ++ '_' :: rest) = w :: underscoreParts rest := by
  have hword : ∀ c ∈ w, (c == '_') = false := fun c hc => beq_eq_false_iff_ne.mpr fun heq => hw (heq ▸ hc)
  rw [underscoreParts, Text.splitOn_append_cons hword (beq_self_eq_true _),
    List.filter_cons_of_pos (by simpa using hne), underscoreParts]

/-- The parts between underscores **are the words**, if there are any. -/
theorem splitAtUnderscores_eq {name part : Text} {parts : List Text} (h : underscoreParts name = part :: parts) :
    splitAtUnderscores name = part :: parts := by
  rw [underscoreParts] at h
  rw [splitAtUnderscores, h]

/-- An underscore **cuts off** the first word, if something else than underscores comes behind it. -/
theorem splitAtUnderscores_append {w rest : Text} (hw : '_' ∉ w) (hne : w ≠ []) (hrest : ∃ c ∈ rest, c ≠ '_') :
    ∃ ws, ws ≠ [] ∧ splitAtUnderscores (w ++ '_' :: rest) = w :: ws := by
  refine ⟨underscoreParts rest, fun hnil => ?_, splitAtUnderscores_eq (underscoreParts_append_cons hw hne rest)⟩
  -- the parts one after the other are the text without underscores
  have hflat := Text.flatten_splitOn (· == '_') rest
  rw [underscoreParts] at hnil
  rw [← List.flatten_filter_not_isEmpty, hnil] at hflat
  obtain ⟨c, hc, hne⟩ := hrest
  have hmem : c ∈ rest.filter fun c => !(c == '_') := List.mem_filter.mpr ⟨hc, by simpa using hne⟩
  rw [← hflat] at hmem
  exact absurd hmem List.not_mem_nil

/-- Without an underscore at once the first word **goes on**. -/
theorem splitAtUnderscores_goesOn {w : Text} (hw : '_' ∉ w) (hne : w ≠ []) (rest : Text) :
    ∃ more ws, splitAtUnderscores (w ++ rest) = (w ++ more) :: ws := by
  have hcut : ∃ more parts, Text.splitOn (· == '_') (w ++ rest) = (w ++ more) :: parts := by
    clear hne
    induction w with
    | nil => exact List.exists_cons_of_ne_nil (Text.splitOn_ne_nil _ rest)
    | cons c w ih =>
        obtain ⟨hc, hw⟩ := not_or.mp (mt List.mem_cons.mpr hw)
        obtain ⟨more, parts, hparts⟩ := ih hw
        refine ⟨more, parts, ?_⟩
        rw [List.cons_append, Text.splitOn, if_neg (by simpa using Ne.symm hc), hparts]
        rfl
  obtain ⟨more, parts, hparts⟩ := hcut
  refine ⟨more, parts.filter (!·.isEmpty), splitAtUnderscores_eq ?_⟩
  rw [underscoreParts, hparts, List.filter_cons_of_pos (by simp [hne])]

/-- A capital **cuts off** the first word of a name that is cut at its capitals. -/
theorem splitAtCapitals_append {w : Text} {c : Char} (hw : ∀ d ∈ w.tail, isCapital d = false) (hne : w ≠ [])
    (hc : isCapital c = true) (rest : Text) :
    splitAtCapitals (w ++ c :: rest) = w :: splitAtCapitals (c :: rest) := by
  induction w with
  | nil => exact absurd rfl hne
  | cons b w ih =>
      cases w with
      | nil => rw [List.singleton_append, splitAtCapitals, if_pos hc]
      | cons d w =>
          obtain ⟨hd, hw⟩ := List.forall_mem_cons.mp hw
          have hcut := ih hw (List.cons_ne_nil d w)
          rw [List.cons_append] at hcut
          rw [List.cons_append, List.cons_append, splitAtCapitals, if_neg (by simp [hd]), hcut, Text.consHead]

/-- A name has **some word**. -/
theorem splitAtCapitals_ne_nil {name : Text} (hne : name ≠ []) : splitAtCapitals name ≠ [] := by
  intro hnil
  have hflat := flatten_splitAtCapitals name
  rw [hnil] at hflat
  exact hne hflat.symm

/-! ### Phrases -/

namespace KindWord

variable {kind : StepKind} {w name : Text} {ws : List Text}

/-- A kind word is **cut off** by an underscore with something behind it, and by a capital if there is no
underscore. -/
theorem exists_nameWords (h : KindWord kind w) {c : Char} {rest : Text} (hname : name = w ++ c :: rest)
    (hc : c = '_' ∨ isCapital c = true) (hapart : (c :: rest).head? = some '_' ∨ '_' ∉ name)
    (hbehind : ∃ d ∈ c :: rest, isWordChar d = true ∧ d ≠ '_') :
    ∃ ws, ws ≠ [] ∧ nameWords name = w :: ws := by
  subst hname
  by_cases hunderscore : c = '_'
  · obtain rfl := hunderscore
    obtain ⟨d, hd, -, hne⟩ := hbehind
    obtain ⟨ws, hws, hcut⟩ := splitAtUnderscores_append h.joinable h.nonempty
      ⟨d, (List.mem_cons.mp hd).resolve_left hne, hne⟩
    exact ⟨ws, hws, by rw [nameWords, if_pos (by simp), hcut]⟩
  · have hnone : '_' ∉ w ++ c :: rest := hapart.resolve_left fun hhead => hunderscore (Option.some.inj hhead)
    have hcut := splitAtCapitals_append h.small h.nonempty (hc.resolve_left hunderscore) rest
    exact ⟨_, splitAtCapitals_ne_nil (List.cons_ne_nil c rest),
      by rw [nameWords, if_neg (by simpa using hnone), hcut]⟩

/-- **A kind word that is cut off** is followed by the phrase without it. -/
theorem lower_phraseOf (h : KindWord kind w) (hwords : nameWords name = w :: ws) (hne : ws ≠ []) :
    Text.lower (phraseOf name) = kind.word ++ " " ++ bodyPhraseOf name := by
  have hphrase : phraseOf name = w ++ ' ' :: Text.join " " ws := by
    obtain ⟨v, vs, rfl⟩ := List.exists_cons_of_ne_nil hne
    rw [phraseOf, hwords, Text.join_cons_cons, List.append_assoc]
    rfl
  have hdrop : dropKindWord (phraseOf name) = Text.join " " ws := by
    have hblank : Text.afterPrefixFold? " " (' ' :: Text.join " " ws) = some (Text.join " " ws) :=
      Text.afterPrefixFold?_append " " _
    rw [hphrase, h.dropKindWord_append, hblank, Option.getD_some]
  rw [bodyPhraseOf, hdrop, hphrase, Text.lower_append_blank w rfl, h.lowered, List.append_assoc]
  rfl

/-- **A kind word that is not cut off** is not dropped. -/
theorem bodyPhraseOf_eq (h : KindWord kind w) {c : Char} {more : Text}
    (hwords : nameWords name = (w ++ c :: more) :: ws) (hc : sameLetter ' ' c = false) :
    bodyPhraseOf name = Text.lower (phraseOf name) := by
  have hphrase : ∃ rest, phraseOf name = w ++ c :: rest := by
    rw [phraseOf, hwords]
    cases ws with
    | nil => exact ⟨more, rfl⟩
    | cons v vs =>
        rw [Text.join_cons_cons, List.append_assoc, List.append_assoc, List.cons_append]
        exact ⟨_, rfl⟩
  obtain ⟨rest, hphrase⟩ := hphrase
  have hnone : Text.afterPrefixFold? " " (c :: rest) = none := if_neg (Bool.eq_false_iff.mp hc)
  rw [bodyPhraseOf, hphrase, h.dropKindWord_append, hnone, Option.getD_none]

end KindWord

/-- A capital is **no blank**, whatever its case. -/
theorem sameLetter_blank_of_isCapital {c : Char} (hc : isCapital c = true) : sameLetter ' ' c = false := by
  have hall : (rangeChars [(65, 90)]).all (fun c => !sameLetter ' ' c) = true := by decide
  have hmem : c ∈ rangeChars [(65, 90)] := mem_rangeChars (by simpa [inRanges, isCapital] using hc)
  simpa using List.all_eq_true.mp hall c hmem

/-! ### Matching the phrase -/

/-- **A text is its words**, with white space between neighbours and perhaps around them all. -/
theorem exists_spaced_words (t : Text) :
    ∃ lead line trail, t = lead ++ line ++ trail ∧ (∀ c ∈ lead, isBlank c = true) ∧
      (∀ c ∈ trail, isBlank c = true) ∧ Spaced (Text.words t) line := by
  -- a word may have begun in front of the text, so the induction goes along both cases at once
  suffices hboth : (∃ lead line trail, t = lead ++ line ++ trail ∧ (∀ c ∈ lead, isBlank c = true) ∧
      (∀ c ∈ trail, isBlank c = true) ∧ Spaced (Text.words t) line) ∧
      ∀ w, w ≠ [] → (∀ c ∈ w, isBlank c = false) → ∃ line trail, w ++ t = line ++ trail ∧
        (∀ c ∈ trail, isBlank c = true) ∧ Spaced (Text.words (w ++ t)) line from hboth.1
  induction t with
  | nil =>
      refine ⟨⟨[], [], [], rfl, by simp, by simp, .none⟩, fun w hne hw => ⟨w, [], rfl, by simp, ?_⟩⟩
      rw [List.append_nil, Text.words_eq_self hne hw]
      exact .last w
  | cons c t ih =>
      obtain ⟨⟨lead, line, trail, ht, hlead, htrail, hspaced⟩, hgoesOn⟩ := ih
      cases hc : isBlank c with
      | true =>
          have hgap : ∀ d ∈ c :: lead, isBlank d = true := List.forall_mem_cons.mpr ⟨hc, hlead⟩
          refine ⟨⟨c :: lead, line, trail, by rw [ht]; rfl, hgap, htrail, Text.words_blank hc t ▸ hspaced⟩, ?_⟩
          intro w hne hw
          rw [Text.words_append_blank hne hw hc]
          cases hwords : Text.words t with
          | nil =>
              rw [hwords] at hspaced
              cases hspaced
              refine ⟨w, c :: (lead ++ trail), by rw [ht, List.append_nil], ?_, .last w⟩
              exact List.forall_mem_append.mpr ⟨hgap, htrail⟩
          | cons u us =>
              refine ⟨w ++ (c :: lead) ++ line, trail, by simp [ht], htrail, ?_⟩
              exact .next (List.cons_ne_nil _ _) hgap (hwords ▸ hspaced)
      | false =>
          refine ⟨?_, fun w hne hw => ?_⟩
          · obtain ⟨line, trail, hline, htrail, hspaced⟩ :=
              hgoesOn [c] (List.cons_ne_nil _ _) (List.forall_mem_singleton.mpr hc)
            exact ⟨[], line, trail, hline, by simp, htrail, hspaced⟩
          · have hink : ∀ d ∈ w ++ [c], isBlank d = false :=
              List.forall_mem_append.mpr ⟨hw, List.forall_mem_singleton.mpr hc⟩
            rw [List.append_cons]
            exact hgoesOn (w ++ [c]) (by simp) hink

/-- Without parameters the segments of a phrase are **its words**. -/
theorem segmentsFrom_nil (words : List Text) (position : Nat) :
    segmentsFrom [] position 0 words = words.map Segment.word := by
  induction words generalizing position with
  | nil => rfl
  | cons w words ih => rw [List.map_cons, ← ih (position + 1)]; rfl

/-- Without parameters **a phrase reads as itself**. -/
theorem phraseReading_self (phrase : Text) : PhraseReading phrase [] phrase := by
  have hp : IsPlacement ((Text.words phrase).map Text.lower) [] [] := ⟨rfl, by simp, by simp, .nil⟩
  obtain ⟨lead, line, trail, hphrase, hlead, htrail, hspaced⟩ := exists_spaced_words phrase
  refine ⟨[], hp, _, segmentation_segments hp (List.length_map _), Text.words phrase, line, lead, trail, ?_,
    hspaced, hphrase, hlead, htrail⟩
  rw [segmentsFrom_nil, List.filter_nil, List.map_nil, List.append_nil, List.forall₂_map_left_iff,
    List.forall₂_same]
  exact fun w _ => Text.sameLetters_refl w

/-- A definition without inline parameters **reads what one of its patterns matches**, and takes no arguments. -/
theorem Definition.read_of_match? {catalog : Catalog} {d : Definition} (hinline : d.inlineParameters = [])
    {patterns : List LinePattern} {body : Text} (h : ∃ p ∈ patterns, (p.match? body).isSome = true) :
    d.read catalog body patterns = .ok (some []) := by
  induction patterns with
  | nil => exact absurd h (by simp)
  | cons pattern patterns ih =>
      rw [Definition.read]
      cases hmatch : pattern.match? body with
      | some way =>
          have harguments : d.arguments catalog way = .ok [] := by rw [Definition.arguments, hinline]; rfl
          simp only [harguments]
      | none =>
          obtain ⟨p, hp, hsome⟩ := h
          rcases List.mem_cons.mp hp with rfl | hp
          · rw [hmatch] at hsome
            exact absurd hsome (by simp)
          · exact ih ⟨p, hp, hsome⟩

/-! ### Names -/

/-- Whether a name **sets its kind word apart**: an underscore stands behind it, or there is no underscore at all. -/
def SetsKindApart (name : Text) : Prop :=
  (name.drop (kindOfName name).word.length).head? = some '_' ∨ '_' ∉ name

/-- **The phrase of a step stands behind the kind word.** Take any name that announces a step, and has a letter or
digit behind its kind word. If the name sets the kind word apart, its phrase in lower case is the word of the kind, a
blank, and the phrase without the kind word. Otherwise the kind word is no word of its own, and the phrase without it
is the whole phrase. Either way, the patterns of a definition with the name match exactly what reads as the phrase
without the kind word, and without inline parameters the definition reads this very text. -/
theorem phraseOf_kindWord {name : Text} (hstep : announcesStep name = true)
    (hbehind : ∃ c ∈ name.drop (kindOfName name).word.length, isWordChar c = true ∧ c ≠ '_') :
    (SetsKindApart name → Text.lower (phraseOf name) = (kindOfName name).word ++ " " ++ bodyPhraseOf name) ∧
    (¬SetsKindApart name → bodyPhraseOf name = Text.lower (phraseOf name)) ∧
    ∀ d : Definition, d.name = name → RegularParameters d.inlineParameters →
      (∀ p ∈ d.inlineParameters, p.hasDefault = false) → d.Alike Catalog.standard { d with patterns := none } →
      ∃ patterns e, d.compile Catalog.standard = .ok (patterns, e) ∧
        (∀ body, (∃ p ∈ patterns, (p.match? body).isSome = true) ↔
          PhraseReading (bodyPhraseOf name) d.inlineParameters body) ∧
        (d.inlineParameters = [] → e.read Catalog.standard (bodyPhraseOf name) patterns = .ok (some [])) := by
  obtain ⟨w, c, rest, hname, hkind, hc⟩ := exists_kindWord hstep
  have hdrop : name.drop (kindOfName name).word.length = c :: rest := by
    rw [← hkind.length_eq]
    conv_lhs => rw [hname]
    exact List.drop_left
  rw [hdrop] at hbehind
  rw [SetsKindApart, hdrop]
  have hcapital : c ≠ '_' → isCapital c = true := hc.resolve_left
  refine ⟨fun hapart => ?_, fun hapart => ?_, fun d hd hregular hdefault hkept => ?_⟩
  · obtain ⟨ws, hne, hwords⟩ := hkind.exists_nameWords hname hc hapart hbehind
    exact hkind.lower_phraseOf hwords hne
  · obtain ⟨hhead, hmem⟩ := not_or.mp hapart
    have hne : c ≠ '_' := fun heq => hhead (congrArg some heq)
    have hjoinable : '_' ∉ w ++ [c] := by simp [hkind.joinable, Ne.symm hne]
    obtain ⟨more, ws, hcut⟩ := splitAtUnderscores_goesOn hjoinable (by simp) rest
    rw [← List.append_cons, ← hname, List.append_assoc, List.singleton_append] at hcut
    have hwords : nameWords name = (w ++ c :: more) :: ws := by
      rw [nameWords, if_pos (by simpa using not_not.mp hmem), hcut]
    exact hkind.bodyPhraseOf_eq hwords (sameLetter_blank_of_isCapital (hcapital hne))
  · obtain rfl := hd
    have hcompile := hkept.compile.trans (Definition.compile_of_regular hregular)
    have hmatches := exists_placement_match?_iff d.phrase hregular hdefault
    refine ⟨_, _, hcompile, hmatches, fun hinline => ?_⟩
    have hself : PhraseReading d.phrase d.inlineParameters d.phrase := hinline ▸ phraseReading_self d.phrase
    apply Definition.read_of_match?
    · exact hinline
    · exact (hmatches d.phrase).mpr hself

/-- A name whose words begin **with capitals**. -/
def cardName : Text := "WhenTheCardIsUsed"

/-- A definition with this name, **without parameters**. -/
def cardDefinition : Definition := ⟨cardName, .action, [], ⟨cardName, false, fun _ _ => none⟩, none, none⟩

/-- The definition reads the text **behind the kind word** of its name. -/
theorem phraseOf_kindWord_card :
    announcesStep cardName = true ∧
      (∃ c ∈ cardName.drop (kindOfName cardName).word.length, isWordChar c = true ∧ c ≠ '_') ∧
      SetsKindApart cardName ∧ RegularParameters cardDefinition.inlineParameters ∧
      Text.lower (phraseOf cardName) = (kindOfName cardName).word ++ " " ++ bodyPhraseOf cardName ∧
      ∃ patterns e, cardDefinition.compile Catalog.standard = .ok (patterns, e) ∧
        e.read Catalog.standard "the card is used" patterns = .ok (some []) := by
  have hstep : announcesStep cardName = true := by decide
  have hbehind : ∃ c ∈ cardName.drop (kindOfName cardName).word.length, isWordChar c = true ∧ c ≠ '_' :=
    ⟨'T', by decide, by decide, by decide⟩
  have hapart : SetsKindApart cardName := .inr (by decide)
  have hinline : cardDefinition.inlineParameters = [] := rfl
  have hregular : RegularParameters cardDefinition.inlineParameters := ⟨by decide, by decide, by decide⟩
  obtain ⟨hphrase, -, hdefinition⟩ := phraseOf_kindWord hstep hbehind
  obtain ⟨patterns, e, hcompile, -, hread⟩ :=
    hdefinition cardDefinition rfl hregular (by decide) (Definition.Alike.refl _ _)
  exact ⟨hstep, hbehind, hapart, hregular, hphrase hapart, patterns, e, hcompile, hread hinline⟩

/-- A name with **a capital behind the kind word** and an underscore elsewhere. -/
def mixedName : Text := "GivenA_user"

/-- **In a mixed name the kind word stays**: the name announces a step, but its phrase without the kind word is its
whole phrase. -/
theorem phraseOf_mixedName :
    announcesStep mixedName = true ∧
      (∃ c ∈ mixedName.drop (kindOfName mixedName).word.length, isWordChar c = true ∧ c ≠ '_') ∧
      Text.lower (phraseOf mixedName) ≠ (kindOfName mixedName).word ++ " " ++ bodyPhraseOf mixedName ∧
      bodyPhraseOf mixedName = "givena user".toList := by
  exact ⟨by decide, ⟨'A', by decide, by decide, by decide⟩, by decide, by decide⟩

end PlainSpec
