import PlainSpec.Proofs.LetterVariants
import PlainSpec.Proofs.LineKinds
import PlainSpec.Proofs.WrittenDocuments

/-!
# What a line can mean

The reader puts a line to one test after the other and takes it for what the first of them finds: the header of a
feature or of a scenario, a named header, or a step of some keyword. The lines under a step are put to two more
tests, for form lines and for grid lines. If several tests could find something in one line, their order would
decide what the line means.

In a built-in vocabulary at most one test finds something. Named headers, form lines and grid lines begin with marks
of their own, and no word begins with one. The words that open features and scenarios clash with all others, as
`Language.Apart` says. The words of steps need not clash: in the French vocabulary `Et` begins a line with
`Etant donné`. But behind the word of a step there is white space, and behind a word that begins another one there is
a letter of the other (`Text.not_blank_of_misses`).

So the tests can be tried in any order. The reader takes a line for what the first test finds, in its own order
(`Reading.addLine_eq_takeUp`), and with at most one test that finds something it does the same in any other
(`Reading.addLineIn_eq`).

## Main results

* `LineTest.eq_of_find?`: at most one test finds something in a line.
* `Language.IsBuiltIn.any_order`: the order of the tests makes no difference, neither to a line nor to a document.
-/

namespace PlainSpec

/-! ### Tests -/

/-- What a line **is found to be**. -/
inductive LineMeaning
  | feature (title : Text)
  | scenario (title : Text)
  | step (kind : StepKind) (keyword : Text)
  | further (keyword : Text)
  | header (header : Text × Text)
  | field (field : Text × Text)
  | row (cells : List Text)
  deriving DecidableEq, Repr

/-- A **test** that a line is put to: for the lines of a keyword, for named headers, and for the lines of forms
and grids. -/
inductive LineTest
  | keyword (keyword : Keyword)
  | header
  | field
  | row
  deriving DecidableEq, Repr

namespace LineTest

/-- What a test **finds** in a line. -/
def find? (language : Language) (line : Text) : LineTest → Option LineMeaning
  | keyword .feature => (title? (language.spellings .feature) line).map .feature
  | keyword .scenario => (title? (language.spellings .scenario) line).map .scenario
  | keyword .given => (stepKeyword? (language.spellings .given) line).map (.step .context)
  | keyword .when => (stepKeyword? (language.spellings .when) line).map (.step .action)
  | keyword .thus => (stepKeyword? (language.spellings .thus) line).map (.step .outcome)
  | keyword .also => (stepKeyword? (language.spellings .also) line).map .further
  | header => (namedHeader? line).map .header
  | field => (formField? line).map .field
  | row => (gridCells? line).map .row

/-- The tests for **steps**, in the order of the reader. -/
def steps : List LineTest := [.keyword .given, .keyword .when, .keyword .thus, .keyword .also]

/-- The **mark** that a line begins with in which a test other than that of a keyword finds something. -/
def mark? : LineTest → Option Char
  | keyword _ => none
  | header => some '@'
  | field => some ':'
  | row => some '|'

end LineTest

/-- The tests that the reader puts a line to in each part of a document, **in its order**. -/
def Part.tests : Part → List LineTest
  | .opening => .keyword .feature :: .keyword .scenario :: .header :: LineTest.steps
  | .description _ _ => [.keyword .scenario, .header]
  | .scenario _ _ => .keyword .feature :: .keyword .scenario :: LineTest.steps

namespace Reading

/-- Take up a **step whose kind is known** and the block under it. -/
def takeStep (r : Reading) (line : Text) (following : List Text) (kind : StepKind) (keyword : Text) :
    Except SpecFault (Reading × Nat) :=
  match r.part with
  | .scenario current _ => do
    let block ← Block.read? following
    let current := { current with steps := current.steps ++ [⟨kind, line, keyword, block⟩] }
    return ({ r with part := .scenario current (some kind) }, block.elim 0 Block.size)
  | _ => .error (.stepOutsideScenario line)

/-- Take up a line **for what it is found to be**. A line in which nothing is found belongs to the description
that is being read, and is a fault elsewhere. -/
def takeUp (r : Reading) (line : Text) (following : List Text) :
    Option LineMeaning → Except SpecFault (Reading × Nat)
  | some (.feature title) => (r.openFeature title).map (·, 0)
  | some (.scenario title) => .ok (r.openScenario title, 0)
  | some (.header header) => .ok (r.addHeader header, 0)
  | some (.step kind keyword) => r.takeStep line following kind keyword
  | some (.further keyword) =>
    match r.lastKind with
    | some kind => r.takeStep line following kind keyword
    | none => .error (.leadingAnd line)
  | some (.field _) | some (.row _) | none =>
    match r.part with
    | .description name lines => .ok ({ r with part := .description name (lines ++ [line]) }, 0)
    | _ => .error (.unrecognised line)

/-- Take up **all lines**, each in a given way, after so many that belong to a block. -/
def addLinesBy (take : Reading → Text → List Text → Except SpecFault (Reading × Nat)) (r : Reading) :
    Nat → List Text → Except SpecFault Reading
  | _, [] => .ok r
  | skip + 1, _ :: rest => addLinesBy take r skip rest
  | 0, line :: rest =>
    match take r line rest with
    | .ok (r, skip) => addLinesBy take r skip rest
    | .error fault => .error fault

/-- Take up one line by putting it to the tests of the part that is being read **in a given order**. -/
def addLineIn (order : Part → List LineTest) (language : Language) (r : Reading) (line : Text)
    (following : List Text) : Except SpecFault (Reading × Nat) :=
  r.takeUp line following ((order r.part).findSome? (·.find? language line))

end Reading

/-- Read the **document** that lines spell, with the tests of each part in a given order. -/
def Document.ofLinesIn (order : Part → List LineTest) (language : Language) (lines : List Text) :
    Except SpecFault Document :=
  (Reading.start.addLinesBy (Reading.addLineIn order language) 0 lines).map (·.document language.code)

/-! ### At most one test finds something -/

/-- White space does not stand **behind both of two words** that each miss the lines of the other: where one of them
ends the other goes on with a letter. -/
theorem Text.not_blank_of_misses {s w t u v : Text} {c d : Char} (hsw : Text.misses s (w ++ [' ']) = true)
    (hws : Text.misses w (s ++ [' ']) = true) (hs : Text.afterPrefixFold? s t = some (c :: u))
    (hw : Text.afterPrefixFold? w t = some (d :: v)) (hc : isBlank c = true) : isBlank d = false := by
  induction s generalizing w t with
  | nil =>
      obtain rfl : t = c :: u := Option.some.inj hs
      cases w with
      | nil => exact absurd hsw (by decide)
      | cons b w =>
          have hink : isBlank b = false := by
            simp only [List.cons_append, Text.misses, Bool.and_eq_true, Bool.not_eq_true'] at hsw
            exact hsw.1.1
          rw [Text.afterPrefixFold?] at hw
          split at hw
          · next hsame => rw [isBlank_eq_of_sameLetter hsame, hc] at hink; exact absurd hink (by simp)
          · exact absurd hw (by simp)
  | cons a s ih =>
      cases t with
      | nil => exact absurd hs (by simp [Text.afterPrefixFold?])
      | cons e t =>
          rw [Text.afterPrefixFold?] at hs
          split at hs
          · next hae =>
            cases w with
            | nil =>
                obtain ⟨rfl, -⟩ := List.cons.inj (Option.some.inj hw)
                simp only [List.cons_append, Text.misses, Bool.and_eq_true, Bool.not_eq_true'] at hws
                rw [← isBlank_eq_of_sameLetter hae]
                exact hws.1.1
            | cons b w =>
                rw [Text.afterPrefixFold?] at hw
                split at hw
                · next hbe =>
                  have hab : sameLetter a b = true := sameLetter_trans hae (sameLetter_symm hbe)
                  rw [List.cons_append, Text.misses, hab, Bool.not_true, Bool.false_or] at hsw
                  rw [List.cons_append, Text.misses, sameLetter_symm hab, Bool.not_true, Bool.false_or] at hws
                  exact ih hsw hws hs hw
                · exact absurd hw (by simp)
          · exact absurd hs (by simp)

namespace Language

variable {language : Language} {keyword other : Keyword} {line : Text}

/-- A line with a keyword of a step is a word of it with **white space behind**. -/
theorem exists_word_of_stepKeyword? (hne : language.words keyword ≠ [])
    (h : (stepKeyword? (language.spellings keyword) line).isSome = true) :
    ∃ word ∈ language.words keyword, ∃ c u,
      Text.afterPrefixFold? word (Text.trimLeft line) = some (c :: u) ∧ isBlank c = true := by
  rw [stepKeyword?_eq, List.findSome?_isSome_iff] at h
  obtain ⟨word, hword, hsome⟩ := h
  refine ⟨word, (mem_spellings hne).mp hword, ?_⟩
  unfold keywordUnder? at hsome
  split at hsome
  · next c d u hafter =>
    split at hsome
    · next hc => exact ⟨c, d :: u, hafter, hc⟩
    · exact absurd hsome (by simp)
  · exact absurd hsome (by simp)

/-- In a distinct vocabulary a line is a step of **one keyword** only. -/
theorem Distinct.eq_of_stepKeyword? (h : language.Distinct) (hmark : keyword.mark = ' ') (hmark' : other.mark = ' ')
    (hline : (stepKeyword? (language.spellings keyword) line).isSome = true)
    (hother : (stepKeyword? (language.spellings other) line).isSome = true) : keyword = other := by
  refine Decidable.byContradiction fun hne => ?_
  obtain ⟨s, hs, c, u, hafter, hc⟩ := exists_word_of_stepKeyword? (h keyword keyword.mem_all).1 hline
  obtain ⟨w, hw, d, v, hafter', hd⟩ := exists_word_of_stepKeyword? (h other other.mem_all).1 hother
  have hsw := h.misses hw (h.mem_spellings hs) fun hsame => hne hsame.1
  have hws := h.misses hs (h.mem_spellings hw) fun hsame => hne hsame.1.symm
  rw [hmark'] at hsw
  rw [hmark] at hws
  rw [Text.not_blank_of_misses hsw hws hafter hafter' hc] at hd
  exact absurd hd (by simp)

/-- In a distinct vocabulary **no step** begins with the mark of a named header. -/
theorem Distinct.stepKeyword?_at (h : language.Distinct) (keyword : Keyword) (rest : Text) :
    stepKeyword? (language.spellings keyword) ('@' :: rest) = none := by
  obtain ⟨hne, hwords⟩ := h keyword keyword.mem_all
  refine stepKeyword?_eq_none ⟨'@', [], rfl, rfl⟩ (fun s hs => ?_) rest
  obtain ⟨-, -, hmisses, -⟩ := hwords s ((Language.mem_spellings hne).mp hs)
  exact hmisses

end Language

namespace LineTest

variable {language : Language} {line : Text} {k : Keyword} {a b : LineTest}

/-- The test of a keyword finds a title or a **keyword of a step**, as the mark of the keyword tells. -/
theorem isSome_find?_keyword (k : Keyword) :
    ((keyword k).find? language line).isSome =
      if k.mark = ':' then (title? (language.spellings k) line).isSome
      else (stepKeyword? (language.spellings k) line).isSome := by
  cases k <;> simp [find?, Keyword.mark]

/-- A line in which the test of a keyword finds something **begins with a word** of it. -/
theorem begins_of_find? (h : language.Apart) (hline : ((keyword k).find? language line).isSome = true) :
    language.Begins k line := by
  rw [isSome_find?_keyword] at hline
  split at hline
  · exact h.begins_of_title? hline
  · exact h.begins_of_stepKeyword? hline

/-- A line in which another test finds something **begins with its mark**. -/
theorem head?_of_find? {c : Char} (hmark : b.mark? = some c) (hline : (b.find? language line).isSome = true) :
    line.head? = some c := by
  cases b with
  | keyword k => exact absurd hmark (by simp [mark?])
  | header =>
      obtain rfl : '@' = c := Option.some.inj hmark
      rw [find?, Option.isSome_map] at hline
      unfold namedHeader? at hline
      split at hline
      · rfl
      · exact absurd hline (by simp)
  | field =>
      obtain rfl : ':' = c := Option.some.inj hmark
      rw [find?, Option.isSome_map] at hline
      exact head?_of_isFormLine hline
  | row =>
      obtain rfl : '|' = c := Option.some.inj hmark
      rw [find?, Option.isSome_map, isSome_gridCells?] at hline
      exact head?_of_isGridLine hline

/-- The test of a keyword and a test for lines with a **mark** do not both find something. -/
theorem not_find?_of_mark {c : Char} (h : language.IsBuiltIn)
    (hk : ((keyword k).find? language line).isSome = true) (hb : (b.find? language line).isSome = true) :
    b.mark? ≠ some c := by
  intro hmark
  obtain ⟨hcolon, hpipe⟩ := h.apart.head?_ne (begins_of_find? h.apart hk)
  have hhead := head?_of_find? hmark hb
  cases b with
  | keyword l => exact absurd hmark (by simp [mark?])
  | field => exact hcolon (Option.some.inj hmark ▸ hhead)
  | row => exact hpipe (Option.some.inj hmark ▸ hhead)
  | header =>
      obtain rfl : '@' = c := Option.some.inj hmark
      obtain ⟨rest, rfl⟩ := List.head?_eq_some_iff.mp hhead
      have hdistinct := h.checked.1
      rw [isSome_find?_keyword, Reading.title?_at hdistinct, hdistinct.stepKeyword?_at] at hk
      exact absurd hk (by simp)

/-- The tests of **two keywords** do not both find something. -/
theorem keyword_eq_of_find? {k l : Keyword} (h : language.IsBuiltIn)
    (hk : ((keyword k).find? language line).isSome = true) (hl : ((keyword l).find? language line).isSome = true) :
    k = l := by
  have hbegins := begins_of_find? h.apart hk
  have hbegins' := begins_of_find? h.apart hl
  by_cases hmark : k.mark = ':'
  · exact (h.apart.unique hmark hbegins hbegins').symm
  · by_cases hmark' : l.mark = ':'
    · exact h.apart.unique hmark' hbegins' hbegins
    · rw [isSome_find?_keyword, if_neg hmark] at hk
      rw [isSome_find?_keyword, if_neg hmark'] at hl
      have hblank : ∀ k : Keyword, k.mark ≠ ':' → k.mark = ' ' := by intro k; cases k <;> decide
      exact h.checked.1.eq_of_stepKeyword? (hblank k hmark) (hblank l hmark') hk hl

/-- **At most one test finds something** in a line. -/
theorem eq_of_find? (h : language.IsBuiltIn) (ha : (a.find? language line).isSome = true)
    (hb : (b.find? language line).isSome = true) : a = b := by
  cases a with
  | keyword k =>
      cases b with
      | keyword l => rw [keyword_eq_of_find? h ha hb]
      | header | field | row => exact absurd rfl (not_find?_of_mark h ha hb)
  | header | field | row =>
      cases b with
      | keyword l => exact absurd rfl (not_find?_of_mark h hb ha)
      | header | field | row =>
          -- two marks cannot both stand at the beginning of the line
          have hmarks := (head?_of_find? rfl ha).symm.trans (head?_of_find? rfl hb)
          first | rfl | exact absurd hmarks (by decide)

end LineTest

/-! ### The order of the tests -/

/-- Of choices of which **at most one** yields something the order makes no difference. -/
theorem findSome?_perm {α β : Type} {f : α → Option β} {choices others : List α} (hperm : choices.Perm others)
    (hone : ∀ x y, (f x).isSome = true → (f y).isSome = true → x = y) :
    choices.findSome? f = others.findSome? f := by
  cases hfound : others.findSome? f with
  | none =>
      rw [List.findSome?_eq_none_iff] at hfound ⊢
      exact fun x hx => hfound x (hperm.mem_iff.mp hx)
  | some b =>
      obtain ⟨a, ha, hb⟩ := List.exists_of_findSome?_eq_some hfound
      refine findSome?_eq_of_unique (hperm.mem_iff.mpr ha) hb fun x _ hne => ?_
      exact Option.not_isSome_iff_eq_none.mp fun hsome => hne (hone x a hsome (by rw [hb, Option.isSome_some]))

namespace Reading

variable {language : Language} {r : Reading} {line : Text} {following : List Text}

/-- A line is **classified by the tests for steps**: it has a kind of its own or goes on, or is no step. -/
theorem classify_cases (language : Language) (last : Option StepKind) (line : Text) :
    (∃ kind keyword, LineTest.steps.findSome? (·.find? language line) = some (.step kind keyword) ∧
      classify language last line = .ok (kind, keyword)) ∨
    (∃ keyword, LineTest.steps.findSome? (·.find? language line) = some (.further keyword) ∧
      classify language last line =
        match last with
        | some kind => .ok (kind, keyword)
        | none => .error (.leadingAnd line)) ∨
    (LineTest.steps.findSome? (·.find? language line) = none ∧
      classify language last line = .error (.unrecognised line)) := by
  simp only [classify, stepKeywords, LineTest.steps, LineTest.find?, List.findSome?_cons, List.findSome?_nil]
  cases stepKeyword? (language.spellings .given) line with
  | some word => exact .inl ⟨.context, word, rfl, rfl⟩
  | none =>
      cases stepKeyword? (language.spellings .when) line with
      | some word => exact .inl ⟨.action, word, rfl, rfl⟩
      | none =>
          cases stepKeyword? (language.spellings .thus) line with
          | some word => exact .inl ⟨.outcome, word, rfl, rfl⟩
          | none =>
              cases stepKeyword? (language.spellings .also) line with
              | some word => exact .inr (.inl ⟨word, rfl, by cases last <;> rfl⟩)
              | none => exact .inr (.inr ⟨rfl, rfl⟩)

/-- A step is taken up **as it is classified**. -/
theorem addStep_eq_takeStep (language : Language) (r : Reading) (line : Text) (following : List Text) :
    addStep language r line following =
      (classify language r.lastKind line).bind fun found => r.takeStep line following found.1 found.2 := by
  rw [addStep]
  cases classify language r.lastKind line with
  | error fault => rfl
  | ok found =>
      simp only [takeStep, bind, Except.bind]
      cases r.part <;> rfl

/-- A step is taken up **for what the tests for steps find**, outside a description. -/
theorem addStep_eq_takeUp (hpart : ∀ name lines, r.part ≠ .description name lines) :
    addStep language r line following =
      r.takeUp line following (LineTest.steps.findSome? (·.find? language line)) := by
  rw [addStep_eq_takeStep]
  rcases classify_cases language r.lastKind line with
    ⟨kind, keyword, hfound, hclassify⟩ | ⟨keyword, hfound, hclassify⟩ | ⟨hfound, hclassify⟩
  · rw [hfound, hclassify]
    rfl
  · rw [hfound, hclassify, takeUp]
    cases r.lastKind <;> rfl
  · rw [hfound, hclassify, takeUp]
    split
    · next name lines h => exact absurd h (hpart name lines)
    · rfl

/-- **A line is taken up for what the tests of its part find** in the order of the reader. -/
theorem addLine_eq_takeUp (language : Language) (r : Reading) (line : Text) (following : List Text) :
    addLine language r line following =
      r.takeUp line following (r.part.tests.findSome? (·.find? language line)) := by
  have hstep : (∀ name lines, r.part ≠ .description name lines) → addStep language r line following =
      r.takeUp line following (LineTest.steps.findSome? (·.find? language line)) := addStep_eq_takeUp
  unfold addLine
  cases hpart : r.part with
  | description name lines =>
      simp only [Part.tests, LineTest.find?, List.findSome?_cons, List.findSome?_nil]
      cases title? (language.spellings .scenario) line with
      | some title => rfl
      | none =>
          cases namedHeader? line with
          | some header => rfl
          | none => simp only [Option.map_none, takeUp, hpart]
  | opening =>
      rw [hpart] at hstep
      simp only [Part.tests, List.findSome?_cons, hstep (by simp), LineTest.find?]
      cases title? (language.spellings .feature) line with
      | some title => rfl
      | none =>
          cases title? (language.spellings .scenario) line with
          | some title => rfl
          | none => cases namedHeader? line <;> rfl
  | scenario current last =>
      rw [hpart] at hstep
      simp only [Part.tests, List.findSome?_cons, hstep (by simp), LineTest.find?]
      cases title? (language.spellings .feature) line with
      | some title => rfl
      | none => cases title? (language.spellings .scenario) line <;> rfl

/-- A line is taken up in the same way **whatever the order of the tests**. -/
theorem addLineIn_eq (h : language.IsBuiltIn) {order : Part → List LineTest}
    (horder : ∀ part, (order part).Perm part.tests) : addLineIn order language = addLine language := by
  funext r line following
  rw [addLineIn, addLine_eq_takeUp,
    findSome?_perm (horder r.part) fun a b ha hb => LineTest.eq_of_find? h ha hb]

/-- **All lines** are taken up as each of them is. -/
theorem addLinesBy_addLine (language : Language) (r : Reading) (skip : Nat) (lines : List Text) :
    r.addLinesBy (addLine language) skip lines = r.addLines language skip lines := by
  induction lines generalizing r skip with
  | nil => cases skip <;> rfl
  | cons line rest ih =>
      cases skip with
      | succ skip => exact ih r skip
      | zero =>
          rw [addLinesBy, addLines]
          cases addLine language r line rest with
          | error fault => rfl
          | ok found => exact ih found.1 found.2

end Reading

namespace Language

variable {language : Language}

/-- **A line has one meaning, and the order of the tests does not change it.** In a built-in vocabulary a line is a
line of one keyword at most, and then it is no named header, no form line and no grid line. Put to the tests of the
part that is being read in any order, it is taken up as the reader takes it up, and any lines are read as the same
document or with the same fault. -/
theorem IsBuiltIn.any_order (h : language.IsBuiltIn) :
    (∀ line, ∀ keyword : Keyword, ((LineTest.keyword keyword).find? language line).isSome = true →
      (∀ other : Keyword, ((LineTest.keyword other).find? language line).isSome = true → other = keyword) ∧
        namedHeader? line = none ∧ isFormLine line = false ∧ isGridLine line = false) ∧
    ∀ order : Part → List LineTest, (∀ part, (order part).Perm part.tests) →
      (∀ r line following,
        Reading.addLineIn order language r line following = Reading.addLine language r line following) ∧
      ∀ lines, Document.ofLinesIn order language lines = Document.ofLines language lines := by
  refine ⟨fun line keyword hline => ?_, fun order horder => ?_⟩
  · have hmarked : ∀ {t : LineTest} {c : Char}, t.mark? = some c → (t.find? language line).isSome = false :=
      fun hmark => Bool.eq_false_iff.mpr fun ht => LineTest.not_find?_of_mark h hline ht hmark
    have hheader : (LineTest.header.find? language line).isSome = false := hmarked rfl
    have hfield : (LineTest.field.find? language line).isSome = false := hmarked rfl
    have hrow : (LineTest.row.find? language line).isSome = false := hmarked rfl
    simp only [LineTest.find?, Option.isSome_map, isSome_gridCells?] at hheader hfield hrow
    exact ⟨fun other hother => LineTest.keyword_eq_of_find? h hother hline,
      Option.not_isSome_iff_eq_none.mp (Bool.eq_false_iff.mp hheader), hfield, hrow⟩
  · have hline := Reading.addLineIn_eq h horder
    refine ⟨fun r line following => by rw [hline], fun lines => ?_⟩
    rw [Document.ofLinesIn, hline, Reading.addLinesBy_addLine, Document.ofLines]

/-- The built-in **French** vocabulary. -/
def french : Language :=
  ⟨"fr", "Fonctionnalité", "Scénario", "Soit|Étant donné|Etant donné", "Quand|Lorsque", "Alors", "Et|Mais"⟩

/-- The tests of a part **from the last one to the first**. -/
def backwards (part : Part) : List LineTest := part.tests.reverse

/-- A French line that begins with `Et` is a context and nothing else, and lines that are put to the tests **from the
last one to the first** are read alike. -/
theorem IsBuiltIn.any_order_french :
    french.IsBuiltIn ∧ (Text.afterPrefixFold? "Et" "ETANT DONNÉ un : deux").isSome = true ∧
    ((LineTest.keyword .given).find? french "ETANT DONNÉ un : deux").isSome = true ∧
    (∀ part, (backwards part).Perm part.tests) ∧
    (∀ other : Keyword, ((LineTest.keyword other).find? french "ETANT DONNÉ un : deux").isSome = true →
      other = .given) ∧
    ∀ lines, Document.ofLinesIn backwards french lines = Document.ofLines french lines := by
  have hfrench : french.IsBuiltIn := ⟨by decide, rfl⟩
  have hword : ("Etant donné" : Text) ∈ french.spellings .given := (mem_spellings (by decide)).mpr (by decide)
  have hline : ((LineTest.keyword .given).find? french "ETANT DONNÉ un : deux").isSome = true := by
    rw [LineTest.find?, Option.isSome_map, stepKeyword?_eq, List.findSome?_isSome_iff]
    exact ⟨_, hword, by decide +kernel⟩
  have horder : ∀ part, (backwards part).Perm part.tests := fun part => List.reverse_perm part.tests
  exact ⟨hfrench, by decide +kernel, hline, horder, ((IsBuiltIn.any_order hfrench).1 _ _ hline).1,
    ((IsBuiltIn.any_order hfrench).2 _ horder).2⟩

end Language

end PlainSpec
