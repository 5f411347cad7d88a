import PlainSpec.Language.Consultation
import PlainSpec.Proofs.UnambiguousData
import PlainSpec.Proofs.UsableLanguages

/-!
# Which words count

The words of a keyword may be given in four places: by a file of languages or by the built-in entries, for the language
that a code stands for or for the default language. The file is laid over the built-in entries when a table is loaded,
and the language over the default one when it is asked for. So the language comes before the default, and for each of
them the file before what is built in. Languages that were found are kept, which makes no difference to what is found
afterwards (`Consultation.ask_eq`).

## Main results

* `Consultation.ask_askAll`: what is found does not depend on what was asked for before.
* `Vocabularies.rel_lookup_ofData`: the entries of a table as the data of its file spell them.
* `LanguageTable.Accepted.resolve_resolve`: the code that a code stands for stands for itself.
* `Languages.ask_loaded`: the words of the languages in a loaded table.
-/

namespace PlainSpec

/-! ### Consulting a table -/

namespace Consultation

variable {c : Consultation}

/-- A consultation is **sound** if each language that is kept is the one in the table. -/
def Sound (c : Consultation) : Prop :=
  ∀ code language, c.found.lookup (c.table.resolve code) = some language → c.table.language code = .ok language

/-- **Asking gives the language in the table**, and leaves the consultation sound. -/
theorem ask_eq (h : c.Sound) (code : Text) :
    (c.ask code).1 = c.table.language code ∧ (c.ask code).2.Sound ∧ (c.ask code).2.table = c.table := by
  rw [ask]
  cases hfound : c.found.lookup (c.table.resolve code) with
  | some language => exact ⟨(h code language hfound).symm, h, rfl⟩
  | none =>
      cases hlanguage : c.table.language code with
      | error keyword => exact ⟨rfl, h, rfl⟩
      | ok language =>
          refine ⟨rfl, fun other kept hkept => ?_, rfl⟩
          simp only [Entries.lookup_put, beq_iff_eq] at hkept
          split at hkept
          · next heq =>
            rw [LanguageTable.language_congr heq, hlanguage, Option.some.inj hkept]
          · exact h other kept hkept

/-- Whatever was asked for, the consultation **stays sound**, and its table stays the same. -/
theorem sound_askAll (h : c.Sound) (codes : List Text) :
    (c.askAll codes).Sound ∧ (c.askAll codes).table = c.table := by
  induction codes generalizing c with
  | nil => exact ⟨h, rfl⟩
  | cons code codes ih =>
      obtain ⟨-, hsound, htable⟩ := ask_eq h code
      obtain ⟨hlast, hsame⟩ := ih hsound
      exact ⟨hlast, hsame.trans htable⟩

/-- **What is found does not depend on what was asked for before.** -/
theorem ask_askAll (table : LanguageTable) (codes : List Text) (code : Text) :
    (((opened table).askAll codes).ask code).1 = table.language code := by
  have hopened : (opened table).Sound := fun code language h => absurd h (by simp [opened])
  obtain ⟨hsound, htable⟩ := sound_askAll hopened codes
  rw [(ask_eq hsound code).1, htable]
  rfl

end Consultation

/-! ### Entries that replace others -/

/-- An entry in front of all but those of its key is **the one that counts** for this key. -/
theorem Entries.lookup_replace {κ α : Type} [BEq κ] [LawfulBEq κ] (key k : κ) (value : α) (entries : List (κ × α)) :
    ((key, value) :: entries.filter (·.1 != key)).lookup k = if k == key then some value else entries.lookup k := by
  rw [List.lookup_cons, lookup_filter (· != key) k entries]
  cases hkey : k == key with
  | true => rfl
  | false => rw [bne, hkey]; rfl

/-- A key that is none of those of several pairs stands for **nothing** among them. -/
theorem Entries.lookup_eq_none_of_notMem {κ α : Type} [BEq κ] [LawfulBEq κ] {key : κ} {pairs : List (κ × α)}
    (h : key ∉ pairs.map Prod.fst) : pairs.lookup key = none := by
  rw [List.lookup_eq_none_iff]
  intro pair hpair
  rw [bne_iff_ne]
  exact fun heq => h (heq ▸ List.mem_map_of_mem hpair)

/-- A keyword is found **by its name**. -/
theorem Keyword.ofName?_eq_some_iff {name : Text} {keyword : Keyword} :
    ofName? name = some keyword ↔ name = keyword.name := by
  constructor
  · intro h
    have hname := List.find?_some h
    exact (beq_iff_eq.mp hname).symm
  · rintro rfl
    cases keyword <;> rfl

/-- The **last** of several named texts is put over the others, if it is named like a keyword. -/
theorem Vocabulary.ofNames_concat (texts : List (Text × Text)) (name text : Text) :
    ofNames (texts ++ [(name, text)]) =
      ((Keyword.ofName? name).map (put · text (ofNames texts))).getD (ofNames texts) := by
  rw [ofNames, List.foldl_concat]
  simp only
  cases Keyword.ofName? name <;> rfl

/-- **The words among named texts** with different names are those under the keyword's name. -/
theorem Vocabulary.lookup_ofNames {texts : List (Text × Text)} (h : (texts.map Prod.fst).Nodup) (keyword : Keyword) :
    (ofNames texts).lookup keyword = texts.lookup keyword.name := by
  -- the last text replaces what was there, so the induction is from the back
  induction texts using List.reverseRecOn with
  | nil => rfl
  | append_singleton texts entry ih =>
      obtain ⟨name, text⟩ := entry
      rw [List.map_append] at h
      obtain ⟨hrest, -, hdiffer⟩ := List.nodup_append.mp h
      have hnew : name ∉ texts.map Prod.fst := fun hmem => hdiffer name hmem name List.mem_cons_self rfl
      rw [ofNames_concat, List.lookup_append, List.lookup_cons, List.lookup_nil]
      cases hname : Keyword.ofName? name with
      | none =>
          have hother : (keyword.name == name) = false := by
            refine beq_eq_false_iff_ne.mpr fun heq => ?_
            rw [Keyword.ofName?_eq_some_iff.mpr heq.symm] at hname
            exact absurd hname (by simp)
          rw [Option.map_none, Option.getD_none, ih hrest, hother, Option.or_none]
      | some named =>
          obtain rfl := Keyword.ofName?_eq_some_iff.mp hname
          rw [Option.map_some, Option.getD_some, put, Entries.lookup_replace, ih hrest]
          by_cases heq : keyword = named
          · rw [heq, Entries.lookup_eq_none_of_notMem hnew]
            simp
          · have hother : keyword.name ≠ named.name := fun hsame =>
              heq (Option.some.inj ((Keyword.ofName?_eq_some_iff.mpr hsame.symm).symm.trans hname))
            rw [beq_eq_false_iff_ne.mpr heq, beq_eq_false_iff_ne.mpr hother]
            simp

/-- **The entry of a code** among entries whose codes are different in lower case. -/
theorem Vocabularies.lookup_ofList {entries : List (Text × Vocabulary)}
    (h : (entries.map fun entry => Text.lower entry.1).Nodup) (code : Text) :
    (ofList entries).lookup code = (entries.map fun entry => (Text.lower entry.1, entry.2)).lookup code := by
  have hfold : ∀ all : Vocabularies, (entries.foldl (fun all entry => put entry.1 entry.2 all) all).lookup code =
      ((entries.map fun entry => (Text.lower entry.1, entry.2)).lookup code).or (all.lookup code) := by
    induction entries with
    | nil => exact fun all => rfl
    | cons entry entries ih =>
        obtain ⟨hnew, hrest⟩ := List.nodup_cons.mp h
        intro all
        rw [List.foldl_cons, ih hrest, put, Entries.lookup_replace, List.map_cons, List.lookup_cons]
        cases hcode : code == Text.lower entry.1 with
        | false => rfl
        | true =>
            rw [beq_iff_eq.mp hcode, Entries.lookup_eq_none_of_notMem]
            · rfl
            · rwa [List.map_map]
  exact (hfold []).trans Option.or_none

/-! ### Entries of a file -/

namespace Datum

/-- The entry of a **code** in the data of a file of languages, in whatever case the code is written there. -/
def languageEntry? (data : Datum) (code : Text) : Option Datum :=
  (data.entries.map fun entry => (Text.lower entry.1.asText, entry.2)).lookup code

/-- The words of a **keyword** in the entry of a language. -/
def keywordText? (entry : Datum) (keyword : Keyword) : Option Text := (entry.entry? keyword.name).map asText

/-- The words of a keyword that data give **for a code**. -/
def wordsFor? (data : Datum) (code : Text) (keyword : Keyword) : Option Text :=
  (data.languageEntry? code).bind (·.keywordText? keyword)

/-- Whether the codes of languages are **different**, whatever case they are written in. -/
def CodesDiffer (data : Datum) : Prop := (data.entries.map fun entry => Text.lower entry.1.asText).Nodup

/-- A vocabulary **spells the entry** of a language if it gives each keyword the words that this does. -/
def SpelledBy (entry : Datum) (vocabulary : Vocabulary) : Prop :=
  ∀ keyword, vocabulary.lookup keyword = entry.keywordText? keyword

end Datum

/-- Texts are **one key** exactly if they are equal. -/
theorem Scalar.text_beq_text (a b : Text) : (Scalar.text a == Scalar.text b) = (a == b) := by
  have hidentity : (Scalar.text a == Scalar.text b) = (Identity.text a == Identity.text b) := rfl
  rw [hidentity, Bool.eq_iff_iff, beq_iff_eq, beq_iff_eq, Identity.text.injEq]

/-- **Named texts** are the entries of a mapping whose keys are names, each with its value as a text. -/
theorem forall₂_of_mapM_text {entries : DataEntries} {texts : List (Text × Text)}
    (h : (entries.mapM fun (name, value) => name.text?.map (·, value.asText)) = some texts) :
    List.Forall₂ (fun text entry => Scalar.text text.1 = entry.1 ∧ text.2 = entry.2.asText) texts entries := by
  induction entries generalizing texts with
  | nil =>
      obtain rfl := Option.some.inj h
      exact .nil
  | cons entry entries ih =>
      obtain ⟨key, value⟩ := entry
      rw [List.mapM_cons] at h
      obtain ⟨first, hfirst, h⟩ := Option.bind_eq_some_iff.mp h
      obtain ⟨others, hothers, h⟩ := Option.bind_eq_some_iff.mp h
      obtain rfl := Option.some.inj h
      obtain ⟨name, hname, rfl⟩ := Option.map_eq_some_iff.mp hfirst
      refine .cons ⟨?_, rfl⟩ (ih hothers)
      cases key with
      | text t => exact congrArg _ (Option.some.inj hname).symm
      | _ => exact absurd hname (by simp [Scalar.text?])

/-- A name stands for **the text of what its entry holds**. -/
theorem lookup_named {entries : DataEntries} {texts : List (Text × Text)}
    (h : List.Forall₂ (fun text entry => Scalar.text text.1 = entry.1 ∧ text.2 = entry.2.asText) texts entries)
    (name : Text) : texts.lookup name = (entries.lookup (.text name)).map Datum.asText := by
  induction h with
  | nil => rfl
  | @cons text entry _ _ hentry _ ih =>
      obtain ⟨hkey, hvalue⟩ := hentry
      rw [List.lookup_cons, List.lookup_cons, ← hkey, Scalar.text_beq_text, ih, hvalue]
      cases name == text.1 <;> rfl

/-- The names are **different** if the keys of the entries are. -/
theorem nodup_named {entries : DataEntries} {texts : List (Text × Text)}
    (h : List.Forall₂ (fun text entry => Scalar.text text.1 = entry.1 ∧ text.2 = entry.2.asText) texts entries)
    (hdistinct : Entries.Distinct entries) : (texts.map Prod.fst).Nodup := by
  induction h with
  | nil => exact List.nodup_nil
  | @cons text entry texts entries hentry hrest ih =>
      obtain ⟨hne, hdistinct⟩ := List.pairwise_cons.mp hdistinct
      refine List.nodup_cons.mpr ⟨fun hmem => ?_, ih hdistinct⟩
      -- a second text of the name would be that of an entry with an equal key
      have hnone : entries.lookup (.text text.1) = none := by
        rw [List.lookup_eq_none_iff, hentry.1]
        intro other hother
        rw [bne, hne other hother]
        rfl
      have hlookup := lookup_named hrest text.1
      rw [hnone, Option.map_none, List.lookup_eq_none_iff] at hlookup
      obtain ⟨other, hother, heq⟩ := List.mem_map.mp hmem
      exact absurd (hlookup other hother) (by simp [heq])

/-- **The entry that is read** for a language spells what the data have for it. -/
theorem Vocabularies.spelledBy_of_readEntry {path : Path} {code c : Text} {entry : Datum} {vocabulary : Vocabulary}
    (h : readEntry path code entry = .ok (c, vocabulary)) (hentry : entry.Unambiguous) :
    c = code ∧ entry.SpelledBy vocabulary := by
  rw [readEntry.eq_def] at h
  split at h
  · next entries =>
    split at h
    · exact absurd h (by simp)
    · next texts htexts =>
      split at h
      · obtain ⟨rfl, rfl⟩ := Prod.mk.inj (Except.ok.inj h)
        refine ⟨rfl, fun keyword => ?_⟩
        have hnamed := forall₂_of_mapM_text htexts
        cases hentry with
        | mapping hdistinct _ =>
            rw [Vocabulary.lookup_ofNames (nodup_named hnamed hdistinct), lookup_named hnamed]
            rfl
      · exact absurd h (by simp)
  · exact absurd h (by simp)

/-- The entries that are read for **several languages** spell what the data have for them. -/
theorem Vocabularies.forall₂_spelledBy {path : Path} {entries : DataEntries} {found : List (Text × Vocabulary)}
    (h : entries.mapM (fun entry => readEntry path entry.1.asText entry.2) = .ok found)
    (hvalues : ∀ entry ∈ entries, entry.2.Unambiguous) :
    List.Forall₂ (fun entry language => Text.lower entry.1.asText = Text.lower language.1 ∧
      entry.2.SpelledBy language.2) entries found := by
  have hall := forall₂_of_mapM h
  clear h
  induction hall with
  | nil => exact .nil
  | cons hfirst _ ih =>
      obtain ⟨hvalue, hvalues⟩ := List.forall_mem_cons.mp hvalues
      obtain ⟨hcode, hentry⟩ := spelledBy_of_readEntry hfirst hvalue
      exact .cons ⟨congrArg Text.lower hcode.symm, hentry⟩ (ih hvalues)

/-- Entries whose keys are the same, one by one, have **values that are related** as theirs are. -/
theorem Entries.rel_lookup {κ α β : Type} [BEq κ] {R : α → β → Prop} {as : List (κ × α)} {bs : List (κ × β)}
    (h : List.Forall₂ (fun a b => a.1 = b.1 ∧ R a.2 b.2) as bs) (k : κ) : Option.Rel R (as.lookup k) (bs.lookup k) := by
  induction h with
  | nil => exact .none
  | @cons a b _ _ hab _ ih =>
      obtain ⟨hkey, hvalue⟩ := hab
      rw [List.lookup_cons, List.lookup_cons, hkey]
      split
      · exact .some hvalue
      · exact ih

/-- **The entries that data spell**: a code has an entry exactly if the data have one for it, and then with its words. -/
theorem Vocabularies.rel_lookup_ofData {path : Path} {data : Datum} {added : Vocabularies}
    (h : ofData path data = .ok added) (hcodes : data.CodesDiffer) (hdata : data.Unambiguous) (code : Text) :
    Option.Rel Datum.SpelledBy (data.languageEntry? code) (added.lookup code) := by
  rw [ofData.eq_def] at h
  split at h
  · next hfalse =>
    obtain rfl := Except.ok.inj h
    have hnone : data.entries = [] := by
      rcases data with s | items | entries
      · rfl
      · rfl
      · simpa [Datum.isTruthy, Datum.entries] using hfalse
    rw [Datum.languageEntry?, hnone]
    exact .none
  · split at h
    · next entries _ =>
      cases hread : entries.mapM fun entry => readEntry path entry.1.asText entry.2 with
      | error failure => rw [hread] at h; exact absurd h (by simp [Except.map])
      | ok found =>
          rw [hread] at h
          obtain rfl := Except.ok.inj h
          have hvalues : ∀ entry ∈ entries, entry.2.Unambiguous := by
            cases hdata with
            | mapping _ hvalues => exact hvalues
          have hspelled := forall₂_spelledBy hread hvalues
          have hsame : (entries.map fun entry => Text.lower entry.1.asText) =
              found.map fun language => Text.lower language.1 := by
            rw [← List.forall₂_eq_eq_eq, List.forall₂_map_left_iff, List.forall₂_map_right_iff]
            exact hspelled.imp fun _ _ => And.left
          rw [lookup_ofList (hsame ▸ hcodes)]
          exact Entries.rel_lookup (List.forall₂_map_left_iff.mpr (List.forall₂_map_right_iff.mpr hspelled)) code
    · exact absurd h (by simp)

/-! ### Loaded tables -/

/-- The words of a keyword that the **built-in entries** give for a code. -/
def builtInWords? (code : Text) (keyword : Keyword) : Option Text :=
  (builtInVocabularies.lookup code).bind (·.lookup keyword)

/-- The **data of a file** of languages; without a file there are none. -/
def Languages.HasData (tree : FileTree) (file : Option Text) (data : Datum) : Prop :=
  match file.filter (!·.isEmpty) with
  | some name => tree.readData (Path.ofText name) = .ok (.ok data)
  | none => data = .null

namespace Datum

/-- Whether a code has an entry **in the data of a file or among those that are built in**. -/
def hasLanguage (data : Datum) (code : Text) : Bool :=
  (data.languageEntry? code).isSome || (builtInVocabularies.lookup code).isSome

/-- The code whose entry **counts for a code**: the code in lower case, if there is an entry for it; else what stands
before its first hyphen or underscore, if there is one for that; else the default language. -/
def countsFor (data : Datum) (default code : Text) : Text :=
  if data.hasLanguage (Text.lower code) then Text.lower code
  else if data.hasLanguage (LanguageTable.primarySubtag (Text.lower code)) then
    LanguageTable.primarySubtag (Text.lower code)
  else Text.lower default

end Datum

/-- A loaded table is made of **what the data of its file spell**, laid over the built-in entries. -/
theorem Languages.exists_of_load {tree : FileTree} {file : Option Text} {default : Text} {languages : Languages}
    {data : Datum} (h : load tree file default = .ok languages) (hdata : HasData tree file data) :
    ∃ path added, Vocabularies.ofData path data = .ok added ∧
      languages.table.entries = added.laidOver builtInVocabularies ∧
      languages.table.default = Text.lower default := by
  have hmade : ∀ (added : Vocabularies) (file : Option Text),
      (do return ⟨← LanguageTable.ofVocabularies (added.laidOver builtInVocabularies) default, file⟩ :
        Except Failure Languages) = .ok languages →
      languages.table.entries = added.laidOver builtInVocabularies ∧ languages.table.default = Text.lower default := by
    intro added file h
    obtain ⟨table, htable, h⟩ := exists_of_bind_eq_ok h
    obtain rfl := Except.ok.inj h
    exact LanguageTable.of_ofVocabularies htable
  rw [load] at h
  rw [HasData] at hdata
  cases hfile : file.filter (!·.isEmpty) with
  | none =>
      rw [hfile] at hdata
      simp only [hfile] at h
      obtain ⟨added, hadded, h⟩ := exists_of_bind_eq_ok h
      obtain rfl := Except.ok.inj hadded
      exact ⟨⟨[]⟩, [], by rw [hdata]; rfl, hmade [] _ h⟩
  | some name =>
      rw [hfile] at hdata
      simp only [hfile] at h
      obtain ⟨added, hadded, h⟩ := exists_of_bind_eq_ok h
      simp only at hdata
      rw [Vocabularies.ofFile, hdata] at hadded
      exact ⟨Path.ofText name, added, hadded, hmade added _ h⟩

namespace LanguageTable

variable {table : LanguageTable}

/-- A code in lower case that **has an entry** stands for itself. -/
theorem resolve_eq_self {code : Text} (hlower : Text.lower code = code)
    (h : (table.entries.lookup code).isSome = true) : table.resolve code = code := by
  rw [resolve]
  simp only [hlower]
  rw [if_pos h]

/-- **The code that a code stands for** stands for itself. -/
theorem Accepted.resolve_resolve (h : table.Accepted) (code : Text) :
    table.resolve (table.resolve code) = table.resolve code := by
  have hlowered : ∀ c ∈ Text.lower code, lowerChar c = c := fun c hc => Text.lowerChar_of_mem_lower hc
  generalize hresolved : table.resolve code = resolved
  rw [resolve] at hresolved
  split at hresolved
  · next hcode =>
    rw [← hresolved]
    exact resolve_eq_self (Text.lower_eq_self hlowered) hcode
  · split at hresolved
    · next hprimary =>
      rw [← hresolved]
      refine resolve_eq_self (Text.lower_eq_self fun c hc => hlowered c ?_) hprimary
      exact (List.takeWhile_sublist _).subset hc
    · rw [← hresolved]
      exact h.resolve_default

end LanguageTable

namespace Languages

variable {tree : FileTree} {file : Option Text} {default : Text} {languages : Languages} {data : Datum}

/-- **What a loaded table gives for a code**: the words of the file, or else those that are built in. -/
theorem lookup_loaded (h : load tree file default = .ok languages) (hdata : HasData tree file data)
    (hcodes : data.CodesDiffer) (hunambiguous : data.Unambiguous) (code : Text) :
    (languages.table.entries.lookup code).isSome = data.hasLanguage code ∧
      ∀ keyword, ((languages.table.entries.lookup code).getD []).lookup keyword =
        (data.wordsFor? code keyword).or (builtInWords? code keyword) := by
  obtain ⟨path, added, hadded, hentries, -⟩ := exists_of_load h hdata
  have hrel := Vocabularies.rel_lookup_ofData hadded hcodes hunambiguous code
  rw [hentries, Vocabularies.lookup_laidOver, Datum.hasLanguage]
  unfold Datum.wordsFor? builtInWords?
  generalize data.languageEntry? code = entry at hrel ⊢
  generalize added.lookup code = upper at hrel ⊢
  cases hrel with
  | none =>
      cases builtInVocabularies.lookup code <;> exact ⟨rfl, fun keyword => rfl⟩
  | @some entry upper hspelled =>
      refine ⟨rfl, fun keyword => ?_⟩
      simp only [Option.map_some, Option.some_or, Option.getD_some, Option.bind_some]
      rw [Vocabulary.lookup_completedBy, hspelled keyword]
      cases builtInVocabularies.lookup code <;> rfl

/-- **Which words count.** Take a table that is loaded from a file, or without one, the codes in the file being
different whatever case they are written in. Whatever was asked for before, a language that is found for a code has the
code that counts for it, and its words of a keyword are the first that are given by the file for this code, by the
built-in entries for it, by the file for the default language, and by the built-in entries for the default language.
The code that any code stands for stands for itself. -/
theorem ask_loaded (h : load tree file default = .ok languages) (hdata : HasData tree file data)
    (hcodes : data.CodesDiffer) (hunambiguous : data.Unambiguous) (asked : List Text) (code : Text) :
    (∀ language, (((Consultation.opened languages.table).askAll asked).ask code).1 = .ok language →
      language.code = data.countsFor default code ∧
      ∀ keyword, some (language.text keyword) =
        (data.wordsFor? (data.countsFor default code) keyword).or
          ((builtInWords? (data.countsFor default code) keyword).or
            ((data.wordsFor? (Text.lower default) keyword).or (builtInWords? (Text.lower default) keyword)))) ∧
    languages.table.resolve code = data.countsFor default code ∧
    languages.table.resolve (languages.table.resolve code) = languages.table.resolve code := by
  obtain ⟨-, -, -, -, hdefault⟩ := exists_of_load h hdata
  have hentries := lookup_loaded h hdata hcodes hunambiguous
  have hresolve : languages.table.resolve code = data.countsFor default code := by
    rw [LanguageTable.resolve, Datum.countsFor]
    simp only [(hentries _).1, hdefault]
  refine ⟨fun language hlanguage => ?_, hresolve, LanguageTable.Accepted.resolve_resolve (.loaded h) code⟩
  rw [Consultation.ask_askAll] at hlanguage
  rcases languages.table.language_cases code with ⟨-, found, hfound, hcode, hwords⟩ | ⟨keyword, -, hfails⟩
  · obtain rfl := Except.ok.inj (hlanguage.symm.trans hfound)
    refine ⟨hcode.trans hresolve, fun keyword => ?_⟩
    rw [← hwords keyword, LanguageTable.words?, (hentries _).2, (hentries _).2, hresolve, hdefault, Option.or_assoc]
  · exact absurd (hlanguage.symm.trans hfails) (by simp)

/-- The data of a file that gives English **another word**, and a language with a word for features alone. -/
def thingData : Datum :=
  .record [("en", .record [("given", .text "Given|Assuming")]), ("XX", .record [("feature", .text "Thing")])]

/-- A tree with this file. -/
def thingTree : FileTree := ⟨[(["extra.yaml"], .file (.data thingData))]⟩

/-- The language has **its own word**, the words of the file for English, and elsewhere the built-in ones. -/
theorem ask_loaded_thing : HasData thingTree (some "extra.yaml") thingData ∧ thingData.CodesDiffer ∧
    thingData.Unambiguous ∧ ∃ languages language, load thingTree (some "extra.yaml") "en" = .ok languages ∧
      (((Consultation.opened languages.table).askAll ["de", "tlh", "xx"]).ask "xx-YY").1 = .ok language ∧
      language.code = "xx".toList ∧ language.feature = "Thing".toList ∧ language.given = "Given|Assuming".toList ∧
      language.when = "When".toList := by
  have hdata : HasData thingTree (some "extra.yaml") thingData := rfl
  have hcodes : thingData.CodesDiffer := by unfold Datum.CodesDiffer; decide
  have hunambiguous : thingData.Unambiguous := by
    refine .mapping (by decide) (List.forall_mem_cons.mpr ⟨?_, List.forall_mem_singleton.mpr ?_⟩)
    · exact .mapping (by decide) (List.forall_mem_singleton.mpr (.scalar _))
    · exact .mapping (by decide) (List.forall_mem_singleton.mpr (.scalar _))
  have hfound : ∃ languages language, load thingTree (some "extra.yaml") "en" = .ok languages ∧
      (((Consultation.opened languages.table).askAll ["de", "tlh", "xx"]).ask "xx-YY").1 = .ok language :=
    ⟨_, _, rfl, rfl⟩
  obtain ⟨languages, language, hload, hask⟩ := hfound
  obtain ⟨hcode, hwords⟩ := (ask_loaded hload hdata hcodes hunambiguous ["de", "tlh", "xx"] "xx-YY").1 language hask
  refine ⟨hdata, hcodes, hunambiguous, languages, language, hload, hask, hcode.trans (by decide), ?_, ?_, ?_⟩
  · exact Option.some.inj ((hwords .feature).trans (by decide))
  · exact Option.some.inj ((hwords .given).trans (by decide))
  · exact Option.some.inj ((hwords .when).trans (by decide))

end Languages

end PlainSpec
