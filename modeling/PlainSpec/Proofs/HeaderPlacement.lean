import Mathlib.Data.List.TakeWhile
import PlainSpec.Proofs.Directives
import PlainSpec.Proofs.OpenScenario
import PlainSpec.Proofs.ScenariosAppended
import PlainSpec.Proofs.WrittenDocuments

/-!
# Where named headers stand

Named headers stand in front of a feature or under it, and it should make no difference where. The reader takes up
the ones in front in the opening of the document (`Reading.addLines_opening`) and the ones under the feature in its
description (`Reading.addLines_describing`). To open a feature leaves the headers alone, and to take up a header
leaves everything else alone, so both ways lead to one and the same state of the reader, and whatever comes behind
is read alike.

From the first header of a scenario on the feature is complete. A line behind it is a scenario, a step or a fault,
and none of these changes the feature (`Reading.Under.addLine`, `Reading.Under.addLines`). The feature has all named
headers from in front of the scenarios, and of several with one name the last one.

## Main results

* `namedHeader?_eq_some_iff`: the lines that are named headers, and what they say.
* `Document.ofLines_headers`: headers can be moved past the line that opens the feature, and which headers it has.
-/

namespace PlainSpec

/-! ### The lines of named headers -/

/-- A name that **a header can have**, of word characters and hyphens. -/
def IsHeaderName (name : Text) : Prop := name ≠ [] ∧ name.all (fun c => isWordChar c || c == '-') = true

/-- What a line **says as a named header**: a name, in lower case, and a value, trimmed. The value stands behind a
colon, and is empty if there is none. -/
inductive SaysHeader : Text → Text × Text → Prop
  | bare {name : Text} : IsHeaderName name → SaysHeader ('@' :: name) (Text.lower name, [])
  | valued {name gap value : Text} : IsHeaderName name → Text.Blank gap →
      SaysHeader ('@' :: (name ++ (gap ++ ':' :: value))) (Text.lower name, Text.trim value)

/-- What stands **behind a colon** with white space around it. -/
theorem afterColon?_eq_some_iff {t value : Text} :
    afterColon? t = some value ↔
      ∃ gap rest, t = gap ++ ':' :: rest ∧ Text.Blank gap ∧ value = Text.trimLeft rest := by
  constructor
  · intro h
    unfold afterColon? at h
    split at h
    · next rest htrim =>
      refine ⟨t.takeWhile isBlank, rest, ?_, fun c hc => List.mem_takeWhile_imp hc, (Option.some.inj h).symm⟩
      rw [← htrim, Text.trimLeft, List.takeWhile_append_dropWhile]
    · exact absurd h (by simp)
  · rintro ⟨gap, rest, rfl, hgap, rfl⟩
    have htrim : Text.trimLeft (gap ++ ':' :: rest) = ':' :: rest := by
      rw [Text.trimLeft_append_of_blank hgap, Text.trimLeft_ink rfl]
    simp only [afterColon?, htrim]

/-- White space in front of a colon **ends the name** of a header. -/
theorem head?_gap {gap : Text} (hgap : Text.Blank gap) (value : Text) :
    ∀ c ∈ (gap ++ ':' :: value).head?, (isWordChar c || c == '-') = false := by
  cases gap with
  | nil =>
      intro c hc
      obtain rfl : ':' = c := Option.some.inj hc
      decide
  | cons b gap =>
      intro c hc
      obtain rfl : b = c := Option.some.inj hc
      have hblank : isBlank b = true := hgap b List.mem_cons_self
      have hhyphen : b ≠ '-' := by rintro rfl; exact absurd hblank (by decide)
      rw [(blank_apart hblank).1, Bool.false_or, beq_eq_false_iff_ne]
      exact hhyphen

/-- **The reader finds the named headers** and what they say. -/
theorem namedHeader?_eq_some_iff {line : Text} {header : Text × Text} :
    namedHeader? line = some header ↔ SaysHeader line header := by
  constructor
  · intro h
    unfold namedHeader? at h
    split at h
    · next rest =>
      have hcut := List.takeWhile_append_dropWhile (p := fun c => isWordChar c || c == '-') (l := rest)
      have hdrop := congrArg (List.drop (rest.takeWhile fun c => isWordChar c || c == '-').length) hcut
      rw [List.drop_left] at hdrop
      simp only [← hdrop, List.isEmpty_iff] at h
      split at h
      · exact absurd h (by simp)
      · next hne =>
        have hname : IsHeaderName (rest.takeWhile fun c => isWordChar c || c == '-') :=
          ⟨hne, List.all_takeWhile⟩
        rw [← hcut]
        split at h
        · next hnone =>
          obtain rfl := Option.some.inj h
          rw [hnone, List.append_nil]
          exact .bare hname
        · obtain ⟨value, hvalue, rfl⟩ := Option.map_eq_some_iff.mp h
          obtain ⟨gap, behind, hafter, hgap, rfl⟩ := afterColon?_eq_some_iff.mp hvalue
          rw [hafter, Text.trim_trimLeft]
          exact .valued hname hgap
    · exact absurd h (by simp)
  · intro h
    cases h with
    | @bare name hname =>
        have hnone : ∀ c ∈ ([] : Text).head?, (isWordChar c || c == '-') = false := by simp
        have hread := namedHeader?_append hname.1 hname.2 hnone
        rwa [List.append_nil, if_pos rfl] at hread
    | @valued name gap value hname hgap =>
        have hcolon := afterColon?_eq_some_iff.mpr ⟨gap, value, rfl, hgap, rfl⟩
        rw [namedHeader?_append hname.1 hname.2 (head?_gap hgap value), if_neg (by simp), hcolon,
          Option.map_some, Text.trim_trimLeft]

/-- Named headers **open nothing**. -/
theorem SaysHeader.title?_eq_none {language : Language} {line : Text} {header : Text × Text}
    (h : SaysHeader line header) (hlanguage : language.Distinct) (keyword : Keyword) :
    title? (language.spellings keyword) line = none := by
  cases h with
  | bare | valued => exact Reading.title?_at hlanguage keyword _

/-- Headers among lines: a name stands for a value exactly if **the last line with the name** says so. -/
theorem lookup_namedHeaders {lines : List Text} {name value : Text} :
    (Entries.ofPairs (lines.filterMap namedHeader?)).lookup name = some value ↔
      ∃ before line after, lines = before ++ line :: after ∧ SaysHeader line (name, value) ∧
        ∀ later ∈ after, ∀ other, ¬SaysHeader later (name, other) := by
  rw [Entries.lookup_ofPairs_eq_some_iff]
  constructor
  · rintro ⟨before, after, hsplit, hlater⟩
    obtain ⟨front, rest, rfl, -, hrest⟩ := List.filterMap_eq_append_iff.mp hsplit
    obtain ⟨passed, line, behind, rfl, -, hline, rfl⟩ := List.filterMap_eq_cons_iff.mp hrest
    refine ⟨front ++ passed, line, behind, by rw [List.append_assoc], namedHeader?_eq_some_iff.mp hline, ?_⟩
    intro later hmem other hsays
    exact hlater _ (List.mem_filterMap.mpr ⟨later, hmem, namedHeader?_eq_some_iff.mpr hsays⟩) rfl
  · rintro ⟨before, line, after, rfl, hsays, hlater⟩
    refine ⟨before.filterMap namedHeader?, after.filterMap namedHeader?, ?_, ?_⟩
    · rw [List.filterMap_append, List.filterMap_cons_some (namedHeader?_eq_some_iff.mpr hsays)]
    · rintro ⟨key, other⟩ hmem rfl
      obtain ⟨later, hlater', hread⟩ := List.mem_filterMap.mp hmem
      exact hlater later hlater' other (namedHeader?_eq_some_iff.mp hread)

namespace Language

/-- The lines in front of the first header of a scenario and those from there on are **all lines**. -/
theorem frontLines_append_sceneLines (language : Language) (lines : List Text) :
    language.frontLines lines ++ language.sceneLines lines = lines :=
  List.takeWhile_append_dropWhile

/-- No line in front of the first header of a scenario **opens one**. -/
theorem title?_of_mem_frontLines {language : Language} {lines : List Text} {line : Text}
    (h : line ∈ language.frontLines lines) : title? (language.spellings .scenario) line = none := by
  have hnone : (title? (language.spellings .scenario) line).isNone = true :=
    List.mem_takeWhile_imp (p := fun line => (title? (language.spellings .scenario) line).isNone) h
  exact Option.isNone_iff_eq_none.mp hnone

/-- The lines from the first header of a scenario on **begin with it**. -/
theorem exists_title_of_sceneLines (language : Language) {lines rest : List Text} {line : Text}
    (h : language.sceneLines lines = line :: rest) :
    ∃ title, title? (language.spellings .scenario) line = some title := by
  have hnot := List.head?_dropWhile_not (fun line => (title? (language.spellings .scenario) line).isNone) lines
  rw [← sceneLines, h] at hnot
  exact Option.isSome_iff_exists.mp (by simpa using hnot)

end Language

/-! ### In front of the feature and under it -/

namespace Reading

variable {language : Language} {r r' : Reading} {line name : Text} {lines following rest : List Text}

/-- A named header is taken up **in the opening**. -/
theorem addLine_opening (h : language.Distinct) (hpart : r.part = .opening) {header : Text × Text}
    (hline : SaysHeader line header) : r.addLine language line following = .ok (r.addHeader header, 0) := by
  simp only [addLine, hpart, hline.title?_eq_none h, namedHeader?_eq_some_iff.mpr hline]

/-- **All named headers** are taken up in the opening. -/
theorem addLines_opening (h : language.Distinct) (hpart : r.part = .opening)
    (hlines : ∀ line ∈ lines, ∃ header, SaysHeader line header) :
    r.addLines language 0 (lines ++ rest) =
      ((lines.filterMap namedHeader?).foldl addHeader r).addLines language 0 rest := by
  induction lines generalizing r with
  | nil => rfl
  | cons line lines ih =>
      obtain ⟨⟨header, hline⟩, hlines⟩ := List.forall_mem_cons.mp hlines
      rw [List.cons_append, addLines, addLine_opening h hpart hline,
        List.filterMap_cons_some (namedHeader?_eq_some_iff.mpr hline)]
      exact ih (r := r.addHeader header) hpart hlines

/-- In the opening **a feature is opened**. -/
theorem addLine_opener (hpart : r.part = .opening) (hfeature : r.feature = none)
    (hname : title? (language.spellings .feature) line = some name) :
    r.addLine language line following = .ok (r.describing name [], 0) := by
  have hopen : r.openFeature name = .ok (r.describing name []) := by
    simp [openFeature, hasFeature, close, hpart, hfeature, describing]
  simp only [addLine, hpart, hname, hopen]
  rfl

/-- **Named headers can be moved** past the line that opens the feature: both ways the reader describes it, with
the same headers. -/
theorem addLines_opener (h : language.Distinct) (hlines : ∀ line ∈ lines, ∃ header, SaysHeader line header)
    (hname : title? (language.spellings .feature) line = some name) (rest : List Text) :
    start.addLines language 0 (lines ++ line :: rest) =
        (((lines.filterMap namedHeader?).foldl addHeader start).describing name []).addLines language 0 rest ∧
      start.addLines language 0 (line :: (lines ++ rest)) =
        (((lines.filterMap namedHeader?).foldl addHeader start).describing name []).addLines language 0 rest := by
  have hsame := foldl_addHeader (lines.filterMap namedHeader?) start
  have hpart : ((lines.filterMap namedHeader?).foldl addHeader start).part = .opening := by rw [hsame]; rfl
  have hfeature : ((lines.filterMap namedHeader?).foldl addHeader start).feature = none := by rw [hsame]; rfl
  have htitles : ∀ line ∈ lines, title? (language.spellings .scenario) line = none := fun line hline =>
    (hlines line hline).elim fun _ hsays => hsays.title?_eq_none h .scenario
  have hnone : lines.filter (fun line => (namedHeader? line).isNone) = [] := by
    refine List.filter_eq_nil_iff.mpr fun line hline => ?_
    obtain ⟨header, hsays⟩ := hlines line hline
    rw [namedHeader?_eq_some_iff.mpr hsays]
    exact Bool.false_ne_true
  constructor
  · rw [addLines_opening h rfl hlines, addLines, addLine_opener hpart hfeature hname]
  · rw [addLines, addLine_opener rfl rfl hname]
    exact (addLines_describing htitles start name [] rest).trans (by rw [hnone, List.append_nil])

/-! ### Behind the first header of a scenario -/

/-- The reader is in a scenario **under a feature**. -/
structure Under (feature : Feature) (r : Reading) : Prop where
  feature : r.feature = some feature
  inScenario : r.InScenario

variable {feature : Feature}

/-- In a scenario under a feature **a line leaves the feature alone**. -/
theorem Under.addLine {skip : Nat} (hr : r.Under feature)
    (h : r.addLine language line following = .ok (r', skip)) : r'.Under feature := by
  obtain ⟨current, last, hpart⟩ := hr.inScenario
  cases htitle : title? (language.spellings .feature) line with
  | some title =>
      -- there is a feature, and a second one is a fault
      simp [Reading.addLine, hpart, htitle, openFeature, hasFeature, hr.feature, Except.map] at h
  | none =>
      refine ⟨?_, hr.inScenario.addLine htitle h⟩
      cases hscenario : title? (language.spellings .scenario) line with
      | some title =>
          rw [addLine_of_title r htitle hscenario] at h
          obtain ⟨rfl, -⟩ := Prod.mk.inj (Except.ok.inj h)
          simp [openScenario, close, hpart, hr.feature]
      | none =>
          simp only [Reading.addLine, hpart, htitle, hscenario] at h
          obtain ⟨_, _, _, -, -, -, rfl, -⟩ := addStep_eq_ok h
          exact hr.feature

/-- In a scenario under a feature **all further lines** leave the feature alone. -/
theorem Under.addLines {skip : Nat} (hr : r.Under feature) (h : r.addLines language skip lines = .ok r') :
    r'.Under feature := by
  induction lines generalizing r skip with
  | nil => exact Except.ok.inj h ▸ hr
  | cons line lines ih =>
      cases skip with
      | succ skip => exact ih hr h
      | zero =>
          rw [Reading.addLines] at h
          cases hfound : r.addLine language line lines with
          | error fault => simp [hfound] at h
          | ok found =>
              simp only [hfound] at h
              exact ih (hr.addLine hfound) h

/-- A scenario that is opened behind the description of a feature is **under the feature**. -/
theorem under_openScenario (r : Reading) (name : Text) (description : List Text) (title : Text) :
    ((r.describing name description).openScenario title).Under
      ⟨name, Text.join "\n" description, r.headers⟩ :=
  ⟨rfl, _, _, rfl⟩

/-- A feature that is described gets **the named headers in front of the scenarios**, and no others. -/
theorem feature_of_describing {before : List Text}
    (h : (r.describing name before).addLines language 0 lines = .ok r') :
    ∃ feature, r'.close.feature = some feature ∧
      feature.headers = (((language.frontLines lines).filterMap namedHeader?).foldl addHeader r).headers := by
  rw [← language.frontLines_append_sceneLines lines,
    addLines_describing fun _ => Language.title?_of_mem_frontLines] at h
  cases hscenes : language.sceneLines lines with
  | nil =>
      rw [hscenes] at h
      obtain rfl := Except.ok.inj h
      exact ⟨_, rfl, rfl⟩
  | cons header rest =>
      obtain ⟨title, htitle⟩ := language.exists_title_of_sceneLines hscenes
      rw [hscenes, addLines] at h
      simp only [Reading.addLine, describing, htitle] at h
      have hlast := (under_openScenario _ name _ title).addLines h
      obtain ⟨_, _, hpart⟩ := hlast.inScenario
      have hclose : r'.close.feature = r'.feature := by rw [close, hpart]
      exact ⟨_, hclose.trans hlast.feature, rfl⟩

end Reading

/-! ### Documents -/

/-- **Named headers may stand in front of the feature or under it.** Take any named headers, a line that opens a
feature, and any further lines. Whether the headers stand in front of the opening line or behind it, the lines are
read as the same document, or else with the same fault. The document has a feature, and among its headers a name
stands for a value exactly if the last line with this name, among the headers and the lines of the description,
says so. -/
theorem Document.ofLines_headers {language : Language} (hlanguage : language.IsBuiltIn) {headers : List Text}
    {opener : Text} (hheaders : ∀ line ∈ headers, ∃ header, SaysHeader line header)
    (hopener : (title? (language.spellings .feature) opener).isSome = true) (rest : List Text) :
    Document.ofLines language (headers ++ [opener] ++ rest) =
        Document.ofLines language ([opener] ++ headers ++ rest) ∧
      ∀ document, Document.ofLines language (headers ++ [opener] ++ rest) = .ok document →
        ∃ feature, document.feature = some feature ∧ (feature.headers.map Prod.fst).Nodup ∧
          ∀ name value, feature.headers.lookup name = some value ↔
            ∃ before line after, headers ++ language.frontLines rest = before ++ line :: after ∧
              SaysHeader line (name, value) ∧ ∀ later ∈ after, ∀ other, ¬SaysHeader later (name, other) := by
  obtain ⟨hdistinct, -⟩ := hlanguage.checked
  obtain ⟨name, hname⟩ := Option.isSome_iff_exists.mp hopener
  obtain ⟨hfront, hunder⟩ := Reading.addLines_opener hdistinct hheaders hname rest
  have hlines : headers ++ [opener] ++ rest = headers ++ opener :: rest := by simp
  have hmoved : [opener] ++ headers ++ rest = opener :: (headers ++ rest) := by simp
  rw [hlines, hmoved]
  refine ⟨by rw [ofLines, ofLines, hfront, hunder], fun document hread => ?_⟩
  obtain ⟨r, hr, rfl⟩ := exists_reading hread
  rw [hfront] at hr
  obtain ⟨feature, hfeature, hentries⟩ := Reading.feature_of_describing hr
  rw [← List.foldl_append, ← List.filterMap_append, Reading.foldl_addHeader_start] at hentries
  refine ⟨feature, hfeature, ?_, fun name value => ?_⟩
  · rw [hentries]
    exact Entries.nodup_keys_ofPairs _
  · rw [hentries]
    exact lookup_namedHeaders

/-- Two **named headers**, one without a value. -/
def accountHeaders : List Text := ["@Team: Accounts", "@draft"]

/-- The line that opens a **feature** on accounts. -/
def accountOpener : Text := "Feature: Accounts"

/-- Lines **under a feature**, one of them a further header with a name that another one has. -/
def accountLines : List Text := ["@team : Savings", "Who owns what", "Scenario: One", "Given an account"]

/-- What the lines **are read as**. -/
def accounts : Document :=
  ⟨"en", some ⟨"Accounts", "Who owns what", [("team", "Savings"), ("draft", "")]⟩,
    [⟨"One", [⟨.context, "Given an account", "Given", none⟩]⟩]⟩

/-- The headers on accounts are read **in front of the feature and under it** as the same document. -/
theorem Document.ofLines_headers_accounts :
    english.IsBuiltIn ∧ (∀ line ∈ accountHeaders, ∃ header, SaysHeader line header) ∧
      Document.ofLines english (accountHeaders ++ [accountOpener] ++ accountLines) = .ok accounts ∧
      Document.ofLines english ([accountOpener] ++ accountHeaders ++ accountLines) = .ok accounts ∧
      ∃ before line after, accountHeaders ++ english.frontLines accountLines = before ++ line :: after ∧
        SaysHeader line ("team", "Savings") ∧ ∀ later ∈ after, ∀ other, ¬SaysHeader later ("team", other) := by
  have hlanguage : english.IsBuiltIn := ⟨by decide, rfl⟩
  have hheaders : ∀ line ∈ accountHeaders, ∃ header, SaysHeader line header := by
    have hread : ∀ line ∈ accountHeaders, (namedHeader? line).isSome = true := by decide
    intro line hline
    obtain ⟨header, hheader⟩ := Option.isSome_iff_exists.mp (hread line hline)
    exact ⟨header, namedHeader?_eq_some_iff.mp hheader⟩
  have hread : Document.ofLines english (accountHeaders ++ [accountOpener] ++ accountLines) = .ok accounts := by
    have hsome : (Document.ofLines english (accountHeaders ++ [accountOpener] ++ accountLines)).toOption =
        some accounts := by decide +kernel
    exact eq_ok_of_toOption hsome
  have hopener : (title? (english.spellings .feature) accountOpener).isSome = true := by decide +kernel
  obtain ⟨hsame, hfeature⟩ := Document.ofLines_headers hlanguage hheaders hopener accountLines
  obtain ⟨feature, hsome, -, hlookup⟩ := hfeature accounts hread
  obtain rfl := Option.some.inj hsome
  exact ⟨hlanguage, hheaders, hread, hsame ▸ hread, (hlookup "team" "Savings").mp rfl⟩

end PlainSpec
