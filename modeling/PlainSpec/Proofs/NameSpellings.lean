import PlainSpec.Proofs.InterchangeableDefinitions
import PlainSpec.Proofs.KindWords
import PlainSpec.Proofs.Registrations
import PlainSpec.TestModule.Names

/-!
# Two ways of spelling a name

A name of several words is spelled with underscores between them, or without any, each word with a capital in front.
A name with an underscore is cut at its underscores, and one without at its capitals. So a name of a single word is cut
at its capitals even in small letters, but has none. Both spellings give the same words, and the same phrase but for
the case of its letters. The kind word that is dropped is told by its letters alone, so nothing is left of the
difference once the rest is in lower case.

## Main results

* `NameSpelling`: the two ways of spelling words.
* `nameWords_underscored`, `nameWords_capitalised`: the words are cut apart again.
* `NameSpelling.bodyPhraseOf_eq`: the phrase without the kind word does not depend on the spelling.
* `phraseOf_spellings`: definitions with names that spell the same words find the same steps.
-/

namespace PlainSpec

/-! ### Words -/

/-- A **plain word**: a small letter, and small letters and digits behind it. -/
def PlainWord : Text → Prop
  | [] => False
  | c :: rest => c.isLower = true ∧ (rest.all fun d => d.isLower || d.isDigit) = true

instance : DecidablePred PlainWord
  | [] => inferInstanceAs (Decidable False)
  | _ :: _ => inferInstanceAs (Decidable (_ ∧ _))

/-- A **small letter or digit** is a character of ASCII and its own lower case, and neither white space, an underscore
nor a capital. -/
theorem small_of_isLower_or_isDigit {c : Char} (hc : (c.isLower || c.isDigit) = true) :
    c.toNat < 128 ∧ isBlank c = false ∧ c ≠ '_' ∧ lowerChar c = c ∧ isCapital c = false := by
  have hname : IsNameLetter c := by
    left
    change (c.isUpper || c.isLower || c.isDigit) = true
    rw [Bool.or_assoc, hc, Bool.or_true]
  exact forall_ascii (P := fun c => (c.isLower || c.isDigit) = true →
    c.toNat < 128 ∧ isBlank c = false ∧ c ≠ '_' ∧ lowerChar c = c ∧ isCapital c = false)
    (by decide +kernel) hname.ascii.1 hc

/-- A small letter has **one capital**, which is the same letter. -/
theorem upperChar_of_isLower {c : Char} (hc : c.isLower = true) :
    Text.upperChar c = [c.toUpper] ∧ isCapital c.toUpper = true ∧ c.toUpper.toNat < 128 ∧ c.toUpper ≠ '_' ∧
      foldCase c.toUpper = foldCase c := by
  have hlt : c.toNat < 128 := (small_of_isLower_or_isDigit (by rw [hc, Bool.true_or])).1
  exact ⟨if_pos hlt, forall_ascii (P := fun c => c.isLower = true →
    isCapital c.toUpper = true ∧ c.toUpper.toNat < 128 ∧ c.toUpper ≠ '_' ∧ foldCase c.toUpper = foldCase c)
    (by decide +kernel) hlt hc⟩

namespace PlainWord

variable {w : Text}

/-- The characters of a plain word are **small letters and digits**. -/
theorem forall_mem (h : PlainWord w) : ∀ c ∈ w, (c.isLower || c.isDigit) = true := by
  cases w with
  | nil => exact h.elim
  | cons c rest => exact List.forall_mem_cons.mpr ⟨by rw [h.1, Bool.true_or], List.all_eq_true.mp h.2⟩

/-- A plain word is **a word for a name**. -/
theorem nameWord (h : PlainWord w) : NameWord w where
  nonempty := by
    rintro rfl
    exact h.elim
  ink c hc := (small_of_isLower_or_isDigit (h.forall_mem c hc)).2.1
  joinable hmem := (small_of_isLower_or_isDigit (h.forall_mem _ hmem)).2.2.1 rfl
  lowered c hc := (small_of_isLower_or_isDigit (h.forall_mem c hc)).2.2.2.1

/-- A plain word is **of ASCII**. -/
theorem ascii (h : PlainWord w) : ∀ c ∈ w, c.toNat < 128 := fun c hc =>
  (small_of_isLower_or_isDigit (h.forall_mem c hc)).1

/-- A plain word **has no capital**. -/
theorem small (h : PlainWord w) : ∀ c ∈ w, isCapital c = false := fun c hc =>
  (small_of_isLower_or_isDigit (h.forall_mem c hc)).2.2.2.2

/-- With its first letter in upper case a plain word **begins with a capital**, and has no other one. -/
theorem exists_capital (h : PlainWord w) :
    ∃ c rest, capitalised w = c :: rest ∧ isCapital c = true ∧ ∀ d ∈ rest, isCapital d = false := by
  cases w with
  | nil => exact h.elim
  | cons c rest =>
      obtain ⟨hupper, hcapital, -⟩ := upperChar_of_isLower h.1
      refine ⟨c.toUpper, rest, by rw [capitalised, hupper, List.singleton_append], hcapital, fun d hd => ?_⟩
      exact h.small d (List.mem_cons_of_mem c hd)

/-- Even so its characters are **of ASCII, and no underscores**. -/
theorem of_mem_capitalised (h : PlainWord w) {c : Char} (hc : c ∈ capitalised w) : c.toNat < 128 ∧ c ≠ '_' := by
  cases w with
  | nil => exact h.elim
  | cons b rest =>
      obtain ⟨hupper, -, hascii, hmark, -⟩ := upperChar_of_isLower h.1
      rw [capitalised, hupper, List.singleton_append] at hc
      rcases List.mem_cons.mp hc with rfl | hc
      · exact ⟨hascii, hmark⟩
      · obtain ⟨hascii, -, hmark, -⟩ := small_of_isLower_or_isDigit (List.all_eq_true.mp h.2 c hc)
        exact ⟨hascii, hmark⟩

/-- Even so it **has the same letters**. -/
theorem map_foldCase_capitalised (h : PlainWord w) : (capitalised w).map foldCase = w.map foldCase := by
  cases w with
  | nil => exact h.elim
  | cons c rest =>
      obtain ⟨hupper, -, -, -, hfold⟩ := upperChar_of_isLower h.1
      rw [capitalised, hupper, List.singleton_append, List.map_cons, List.map_cons, hfold]

end PlainWord

/-! ### Spellings -/

/-- Words **separated by underscores**, by any number of them but none. -/
inductive Underscored : List Text → Text → Prop
  | last (w : Text) : Underscored [w] w
  | next {w gap line : Text} {ws : List Text} :
      gap ≠ [] → (∀ c ∈ gap, c = '_') → Underscored ws line → Underscored (w :: ws) (w ++ gap ++ line)

/-- The two **ways of spelling words** as a name: separated by underscores, perhaps with more of them around, or one
after the other with capitals in front. -/
inductive NameSpelling (ws : List Text) : Text → Prop
  | underscored {lead line trail : Text} :
      (∀ c ∈ lead, c = '_') → Underscored ws line → (∀ c ∈ trail, c = '_') →
      NameSpelling ws (lead ++ line ++ trail)
  | capitalised : NameSpelling ws (ws.flatMap capitalised)

/-- Underscores **in front** of a name make no part. -/
theorem underscoreParts_append {lead : Text} (hlead : ∀ c ∈ lead, c = '_') (name : Text) :
    underscoreParts (lead ++ name) = underscoreParts name := by
  induction lead with
  | nil => rfl
  | cons c lead ih =>
      obtain ⟨rfl, hrest⟩ := List.forall_mem_cons.mp hlead
      rw [List.cons_append, underscoreParts, Text.splitOn, if_pos (beq_self_eq_true _),
        List.filter_cons_of_neg (by simp)]
      exact ih hrest

/-- Underscores **behind** a name make no part. -/
theorem underscoreParts_append_trail {trail : Text} (htrail : ∀ c ∈ trail, c = '_') (name : Text) :
    underscoreParts (name ++ trail) = underscoreParts name := by
  cases trail with
  | nil => rw [List.append_nil]
  | cons c trail =>
      obtain ⟨rfl, hrest⟩ := List.forall_mem_cons.mp htrail
      have hnone : underscoreParts trail = [] := by
        have h := underscoreParts_append hrest []
        rwa [List.append_nil] at h
      rw [underscoreParts] at hnone
      rw [underscoreParts, Text.splitOn_append rfl, List.filter_append, hnone, List.append_nil, underscoreParts]

/-- The parts of words separated by underscores **are the words**. -/
theorem Underscored.underscoreParts_eq {ws : List Text} {line : Text} (h : Underscored ws line)
    (hws : ∀ w ∈ ws, NameWord w) : underscoreParts line = ws := by
  induction h with
  | last w =>
      have hw := hws w List.mem_cons_self
      exact underscoreParts_eq_self hw.joinable hw.nonempty
  | @next w gap line ws hne hgap _ ih =>
      obtain ⟨hw, hrest⟩ := List.forall_mem_cons.mp hws
      obtain ⟨c, gap, rfl⟩ := List.exists_cons_of_ne_nil hne
      obtain ⟨rfl, hmore⟩ := List.forall_mem_cons.mp hgap
      rw [List.append_assoc, List.cons_append, underscoreParts_append_cons hw.joinable hw.nonempty,
        underscoreParts_append hmore, ih hrest]

section

variable {ws : List Text}

/-- Words separated by underscores, with underscores around or without, **are the words of the name**. -/
theorem nameWords_underscored (hne : ws ≠ []) (hws : ∀ w ∈ ws, PlainWord w) {lead line trail : Text}
    (hlead : ∀ c ∈ lead, c = '_') (hline : Underscored ws line) (htrail : ∀ c ∈ trail, c = '_') :
    nameWords (lead ++ line ++ trail) = ws := by
  have hparts : underscoreParts (lead ++ line ++ trail) = ws := by
    rw [underscoreParts_append_trail htrail, underscoreParts_append hlead]
    exact hline.underscoreParts_eq fun w hw => (hws w hw).nameWord
  generalize lead ++ line ++ trail = name at hparts ⊢
  obtain ⟨w, rest, rfl⟩ := List.exists_cons_of_ne_nil hne
  by_cases hmem : '_' ∈ name
  · rw [nameWords, if_pos (List.contains_iff_mem.mpr hmem), splitAtUnderscores_eq hparts]
  · -- without an underscore the name is its only part, and has no capital at which it is cut
    have hname : name ≠ [] := by
      rintro rfl
      exact absurd hparts (by simp [underscoreParts, Text.splitOn])
    rw [underscoreParts_eq_self hmem hname] at hparts
    obtain ⟨rfl, rfl⟩ := List.cons.inj hparts
    have hsmall : ∀ c ∈ name.tail, isCapital c = false := fun c hc =>
      (hws name List.mem_cons_self).small c (List.mem_of_mem_tail hc)
    rw [nameWords, if_neg (by simpa using hmem), Numbered.splitAtCapitals_eq hsmall]

/-- Words one after the other with capitals in front **are cut apart**. -/
theorem splitAtCapitals_capitalised (hne : ws ≠ []) (hws : ∀ w ∈ ws, PlainWord w) :
    splitAtCapitals (ws.flatMap capitalised) = ws.map capitalised := by
  induction ws with
  | nil => exact absurd rfl hne
  | cons w ws ih =>
      obtain ⟨hw, hrest⟩ := List.forall_mem_cons.mp hws
      obtain ⟨c, small, hcapital, -, hsmall⟩ := hw.exists_capital
      have htail : ∀ d ∈ (capitalised w).tail, isCapital d = false := by rwa [hcapital]
      cases ws with
      | nil => rw [List.flatMap_singleton, Numbered.splitAtCapitals_eq htail, List.map_singleton]
      | cons v ws =>
          have hcut := ih (List.cons_ne_nil v ws) hrest
          obtain ⟨d, more, hnext, hd, -⟩ := (hrest v List.mem_cons_self).exists_capital
          rw [List.flatMap_cons, hnext, List.cons_append] at hcut
          rw [List.flatMap_cons, List.flatMap_cons, hnext, List.cons_append,
            splitAtCapitals_append htail (by simp [hcapital]) hd, hcut, List.map_cons, List.map_cons, List.map_cons]

/-- The words of a name spelled with capitals are **the words with their capitals**. -/
theorem nameWords_capitalised (hne : ws ≠ []) (hws : ∀ w ∈ ws, PlainWord w) :
    nameWords (ws.flatMap capitalised) = ws.map capitalised := by
  have hnone : '_' ∉ ws.flatMap capitalised := fun hmem => by
    obtain ⟨w, hw, hc⟩ := List.mem_flatMap.mp hmem
    exact ((hws w hw).of_mem_capitalised hc).2 rfl
  rw [nameWords, if_neg (by simpa using hnone), splitAtCapitals_capitalised hne hws]

/-! ### Phrases -/

/-- What is left without a kind word has **the same letters**, if the phrases have. -/
theorem map_foldCase_dropKindWord {u v : Text} (h : u.map foldCase = v.map foldCase) :
    (dropKindWord u).map foldCase = (dropKindWord v).map foldCase := by
  rw [dropKindWord, dropKindWord, ← Option.getD_map (List.map foldCase), ← Option.getD_map (List.map foldCase), h,
    List.map_findSome?, List.map_findSome?]
  simp only [Function.comp_def, Text.afterPrefixFold?_congr h]

/-- What is left without a kind word has **no other characters**. -/
theorem mem_of_mem_dropKindWord {phrase : Text} {c : Char} (h : c ∈ dropKindWord phrase) : c ∈ phrase := by
  rw [dropKindWord] at h
  cases hfound : StepKind.all.findSome? fun kind => Text.afterPrefixFold? (kind.word ++ " ") phrase with
  | none => rwa [hfound] at h
  | some rest =>
      obtain ⟨kind, -, hrest⟩ := List.exists_of_findSome?_eq_some hfound
      rw [hfound] at h
      exact (Text.isSuffix_of_afterPrefixFold? hrest).mem h

/-- A text with the letters of another one **is lowered to it**, if this is in lower case. -/
theorem Text.lower_eq_of_letters {u v : Text} (h : u.map foldCase = v.map foldCase)
    (hu : ∀ c ∈ u, FoldsByLowering c) (hv : ∀ c ∈ v, FoldsByLowering c) (hlow : ∀ c ∈ v, lowerChar c = c) :
    lower u = v := by
  rw [(lower_eq_lower_iff hu hv).mpr (sameLetters_iff_map.mpr h), lower_eq_self hlow]

/-- Plain words with blanks between them are **their own lower case**. -/
theorem lowerChar_of_mem_join (hws : ∀ w ∈ ws, PlainWord w) : ∀ c ∈ Text.join " " ws, lowerChar c = c := by
  intro c hc
  rcases Text.mem_join hc with hc | ⟨w, hw, hc⟩
  · obtain rfl := List.mem_singleton.mp hc
    decide
  · exact (hws w hw).nameWord.lowered c hc

/-- Words of ASCII with blanks between them **fold by lowering**. -/
theorem foldsByLowering_of_mem_join (hws : ∀ w ∈ ws, ∀ c ∈ w, c.toNat < 128) :
    ∀ c ∈ Text.join " " ws, FoldsByLowering c := by
  intro c hc
  refine (folds_of_ascii ?_).1
  rcases Text.mem_join hc with hc | ⟨w, hw, hc⟩
  · obtain rfl := List.mem_singleton.mp hc
    decide
  · exact hws w hw c hc

namespace NameSpelling

variable {name : Text}

/-- The phrase of a name, however it is spelled, has **the letters of the words** with blanks between them. -/
theorem letters_phraseOf (h : NameSpelling ws name) (hne : ws ≠ []) (hws : ∀ w ∈ ws, PlainWord w) :
    (phraseOf name).map foldCase = (Text.join " " ws).map foldCase ∧ ∀ c ∈ phraseOf name, FoldsByLowering c := by
  have hascii : ∀ w ∈ ws, ∀ c ∈ w, c.toNat < 128 := fun w hw => (hws w hw).ascii
  cases h with
  | underscored hlead hline htrail =>
      rw [phraseOf, nameWords_underscored hne hws hlead hline htrail]
      exact ⟨rfl, foldsByLowering_of_mem_join hascii⟩
  | capitalised =>
      rw [phraseOf, nameWords_capitalised hne hws, Text.map_join, Text.map_join, List.map_map]
      refine ⟨?_, foldsByLowering_of_mem_join fun u hu c hc => ?_⟩
      · congr 1
        exact List.map_congr_left fun w hw => (hws w hw).map_foldCase_capitalised
      · obtain ⟨w, hw, rfl⟩ := List.mem_map.mp hu
        exact ((hws w hw).of_mem_capitalised hc).1

/-- The phrase of a name, however it is spelled, is **the words with blanks between them** up to case. -/
theorem lower_phraseOf (h : NameSpelling ws name) (hne : ws ≠ []) (hws : ∀ w ∈ ws, PlainWord w) :
    Text.lower (phraseOf name) = Text.join " " ws := by
  obtain ⟨hletters, hfold⟩ := h.letters_phraseOf hne hws
  have hjoin := foldsByLowering_of_mem_join fun w hw => (hws w hw).ascii
  exact Text.lower_eq_of_letters hletters hfold hjoin (lowerChar_of_mem_join hws)

/-- **The phrase without the kind word** depends on the words of a name, and not on how they are spelled. -/
theorem bodyPhraseOf_eq (h : NameSpelling ws name) (hne : ws ≠ []) (hws : ∀ w ∈ ws, PlainWord w) :
    bodyPhraseOf name = dropKindWord (Text.join " " ws) := by
  obtain ⟨hletters, hfold⟩ := h.letters_phraseOf hne hws
  have hjoin := foldsByLowering_of_mem_join fun w hw => (hws w hw).ascii
  exact Text.lower_eq_of_letters (map_foldCase_dropKindWord hletters)
    (fun c hc => hfold c (mem_of_mem_dropKindWord hc)) (fun c hc => hjoin c (mem_of_mem_dropKindWord hc))
    fun c hc => lowerChar_of_mem_join hws c (mem_of_mem_dropKindWord hc)

end NameSpelling

end

/-! ### Definitions -/

/-- Definitions registered with one catalog are **interchangeable with any catalog** if they describe steps alike and
take the same parameters. -/
theorem Definition.Fresh.interchangeable {former : Catalog} {d e : Definition} (hd : d.Fresh former)
    (he : e.Fresh former) (hdescribe : d.DescribeAlike e) (hparameters : d.parameters = e.parameters)
    (catalog : Catalog) : Interchangeable catalog d e := by
  have hinline : d.inlineParameters = e.inlineParameters := by
    rw [inlineParameters, inlineParameters, hparameters]
  refine ⟨hdescribe, hparameters, ?_, compile_congr hd.patterns he.patterns hdescribe.phrase hparameters⟩
  rw [Bool.eq_iff_iff, hd.isValid_iff, he.isValid_iff, hinline]

/-- **Both spellings of a name give the same phrase.** Take any plain words, at least one. Separated by underscores,
with any more of them around, they make a name whose phrase is the words with blanks between them. One after the other
with capitals in front, they make a name whose phrase is the same with these capitals. So all these phrases are the same
in lower case, and without the kind word the phrases of both are the same altogether.

Hence two definitions of one kind whose names spell the same words have the same phrase. If they also take the same
parameters and have been registered with the same catalog, they make the same patterns, or fail together, with any
catalog. They read the same arguments from every line with any patterns. And in any registry one of them may stand in
the place of the other: any steps are bound at the same positions with the same arguments, the same hints or the same
failure. -/
theorem phraseOf_spellings {ws : List Text} (hne : ws ≠ []) (hws : ∀ w ∈ ws, PlainWord w) :
    (∀ lead line trail, (∀ c ∈ lead, c = '_') → Underscored ws line → (∀ c ∈ trail, c = '_') →
      phraseOf (lead ++ line ++ trail) = Text.join " " ws) ∧
    phraseOf (ws.flatMap capitalised) = Text.join " " (ws.map capitalised) ∧
    (∀ name, NameSpelling ws name →
      Text.lower (phraseOf name) = Text.join " " ws ∧ bodyPhraseOf name = dropKindWord (Text.join " " ws)) ∧
    ∀ d e : Definition, NameSpelling ws d.name → NameSpelling ws e.name → d.kind = e.kind →
      d.phrase = e.phrase ∧
      (d.parameters = e.parameters → ∀ former catalog, d.Fresh former → e.Fresh former →
        (d.compile catalog).map Prod.fst = (e.compile catalog).map Prod.fst ∧
        (∀ body patterns, d.read catalog body patterns = e.read catalog body patterns) ∧
        ∀ before after invalidAt steps,
          ((⟨catalog, before ++ d :: after, invalidAt⟩ : Registry).bindAll steps).1.map
              (List.map Finding.outline) =
            ((⟨catalog, before ++ e :: after, invalidAt⟩ : Registry).bindAll steps).1.map
              (List.map Finding.outline)) := by
  refine ⟨fun lead line trail hlead hline htrail => ?_, ?_, fun name hname => ?_, fun d e hd he hkind => ?_⟩
  · rw [phraseOf, nameWords_underscored hne hws hlead hline htrail]
  · rw [phraseOf, nameWords_capitalised hne hws]
  · exact ⟨hname.lower_phraseOf hne hws, hname.bodyPhraseOf_eq hne hws⟩
  · have hphrase : d.phrase = e.phrase := (hd.bodyPhraseOf_eq hne hws).trans (he.bodyPhraseOf_eq hne hws).symm
    refine ⟨hphrase, fun hparameters former catalog hfresh hfresh' => ?_⟩
    have hinterchangeable := hfresh.interchangeable hfresh' ⟨hkind, hphrase⟩ hparameters catalog
    refine ⟨hinterchangeable.patterns, Definition.read_congr hparameters, fun before after invalidAt => ?_⟩
    exact Registry.bindAll_interchangeable
      (Registry.interchangeable_of_replaced hinterchangeable before after invalidAt)

/-- Words of which two are **the word of a kind**. -/
def givenWords : List Text := ["given", "given", "user1"]

/-- The words **with underscores**. -/
def underscoredName : Text := "__given___given_user1_"

/-- The words **with capitals**. -/
def capitalisedName : Text := "GivenGivenUser1"

/-- A definition that **takes a user** where its name spells one. -/
def givenUser (name : Text) : Definition :=
  ⟨name, .context, [⟨"user1", some .text, false⟩], ⟨"user", false, fun _ _ => none⟩, none, none⟩

/-- Only **the first word** is dropped, however the words are spelled, and either definition does for the other. -/
theorem phraseOf_spellings_given :
    (givenWords ≠ [] ∧ ∀ w ∈ givenWords, PlainWord w) ∧
    NameSpelling givenWords underscoredName ∧ NameSpelling givenWords capitalisedName ∧
    phraseOf underscoredName = "given given user1" ∧ phraseOf capitalisedName = "Given Given User1" ∧
    bodyPhraseOf underscoredName = "given user1" ∧ bodyPhraseOf capitalisedName = "given user1" ∧
    (givenUser underscoredName).Fresh Catalog.standard ∧ (givenUser capitalisedName).Fresh Catalog.standard ∧
    ∀ steps, ((⟨Catalog.standard, [givenUser underscoredName], []⟩ : Registry).bindAll steps).1.map
        (List.map Finding.outline) =
      ((⟨Catalog.standard, [givenUser capitalisedName], []⟩ : Registry).bindAll steps).1.map
        (List.map Finding.outline) := by
  have hne : givenWords ≠ [] := List.cons_ne_nil _ _
  have hws : ∀ w ∈ givenWords, PlainWord w := by decide
  have hgap : ∀ n, ∀ c ∈ List.replicate n '_', c = '_' := fun n c hc => List.eq_of_mem_replicate hc
  have hline : Underscored givenWords (("given" : Text) ++ "___" ++ (("given" : Text) ++ "_" ++ "user1")) :=
    .next (by decide) (hgap 3) (.next (by decide) (hgap 1) (.last _))
  have hunderscored : NameSpelling givenWords underscoredName := .underscored (hgap 2) hline (hgap 1)
  have hcapitalised : NameSpelling givenWords capitalisedName := .capitalised
  have hserved : ∀ p ∈ (givenUser []).inlineParameters, Catalog.standard.handles p.type = true := by decide
  have hfresh : ∀ name, (givenUser name).Fresh Catalog.standard := fun name =>
    ⟨by simp [givenUser], rfl, fun _ => hserved, fun _ => rfl⟩
  have hdrop : dropKindWord (Text.join " " givenWords) = "given user1" := by decide
  obtain ⟨hphrase, hcapitals, hbody, hdefinitions⟩ := phraseOf_spellings hne hws
  obtain ⟨-, hsame⟩ :=
    hdefinitions (givenUser underscoredName) (givenUser capitalisedName) hunderscored hcapitalised rfl
  obtain ⟨-, -, hsteps⟩ := hsame rfl _ Catalog.standard (hfresh _) (hfresh _)
  exact ⟨⟨hne, hws⟩, hunderscored, hcapitalised, hphrase _ _ _ (hgap 2) hline (hgap 1), hcapitals,
    (hbody _ hunderscored).2.trans hdrop, (hbody _ hcapitalised).2.trans hdrop, hfresh _, hfresh _, hsteps [] [] []⟩

end PlainSpec
