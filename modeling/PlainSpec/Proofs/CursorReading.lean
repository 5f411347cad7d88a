import PlainSpec.Proofs.Layout
import PlainSpec.Proofs.ScenariosAppended
import PlainSpec.Specification.Cursor

/-!
# The cursor and the reader of lists

A reader with a cursor looks ahead in the lines, jumps over blocks and changes a document in place. The reader of lists
takes up a line with those behind it and has no need of any of this. Here the two are shown to do the same, action by
action.

Looking ahead at a place is looking at the lines behind it (`Cursor.blockBehind_eq`), so the two find the same block.
What the machine has in its hands is what the part that is being read holds (`Cursor.Represents`), and each action keeps
it so. Two actions do more than the reader of lists does. A header is put into the headers of the feature together with
all headers before it, which are there already (`Entries.update_put`). And a description loses the line ends on its
sides, of which it has none, as its lines are trimmed and not empty (`Text.trim_join`).

## Main results

* `Cursor.blockBehind_eq`: the block behind a place is the one that the lines there begin with.
* `Cursor.Represents.readCurrent`: the line at the cursor is taken up as the reader of lists takes it up.
-/

namespace PlainSpec

/-! ### Texts and entries -/

namespace Text

/-- Joined texts are **trimmed** if each of them is, and none is empty. -/
theorem trim_join {separator : Text} {ts : List Text} (hts : ∀ t ∈ ts, trim t = t ∧ t ≠ []) :
    trim (join separator ts) = join separator ts ∧ (ts ≠ [] → join separator ts ≠ []) := by
  induction ts with
  | nil => exact ⟨rfl, fun h => absurd rfl h⟩
  | cons t ts ih =>
      obtain ⟨⟨ht, hne⟩, hrest⟩ := List.forall_mem_cons.mp hts
      cases ts with
      | nil => exact ⟨ht, fun _ => hne⟩
      | cons u ts =>
          obtain ⟨htrim, hjoin⟩ := ih hrest
          obtain ⟨c, t, rfl⟩ := List.exists_cons_of_ne_nil hne
          have hink : isBlank c = false := ((trim_eq_self_iff _).mp ht).1 c rfl
          rw [join_cons_cons, List.cons_append, List.cons_append]
          exact ⟨trim_cons_append hink (t ++ separator) htrim (hjoin (by simp)), fun _ => by simp⟩

/-- A trimmed text has **no line ends** on its sides. -/
theorem trimLineEnds_eq_self {t : Text} (h : trim t = t) : trimLineEnds t = t := by
  obtain ⟨hhead, hlast⟩ := (trim_eq_self_iff t).mp h
  have hink : ∀ c : Char, isBlank c = false → (c == '\r' || c == '\n') = false := by
    intro c hc
    rw [Bool.or_eq_false_iff, beq_eq_false_iff_ne, beq_eq_false_iff_ne]
    constructor <;> (rintro rfl; exact absurd hc (by decide))
  have hfront : ∀ u : Text, (∀ c ∈ u.head?, isBlank c = false) →
      u.dropWhile (fun c => c == '\r' || c == '\n') = u := by
    intro u hu
    cases u with
    | nil => rfl
    | cons c u => rw [List.dropWhile_cons_of_neg (by simp [hink c (hu c rfl)])]
  rw [trimLineEnds, hfront t hhead, dropEndWhile, hfront t.reverse (by rwa [List.head?_reverse]), List.reverse_reverse]

end Text

namespace Entries

variable {key value : Text} {entries later : Record}

/-- Putting an entry keeps the keys **in their places**. -/
theorem keys_prefix_put (key value : Text) (entries : Record) :
    entries.map Prod.fst <+: (put key value entries).map Prod.fst := by
  induction entries with
  | nil => exact List.nil_prefix
  | cons entry rest ih =>
      rw [put]
      split
      · exact List.prefix_rfl
      · exact (List.cons_prefix_cons).mpr ⟨rfl, ih⟩

/-- Entries with the same keys and perhaps more **replace** those that they are put on top of. -/
theorem update_append (front : Record) (hkeys : entries.map Prod.fst <+: later.map Prod.fst)
    (hnodup : ((front ++ later).map Prod.fst).Nodup) : update (front ++ entries) later = front ++ later := by
  induction later generalizing front entries with
  | nil =>
      rw [List.map_nil, List.prefix_nil, List.map_eq_nil_iff] at hkeys
      rw [hkeys]
      rfl
  | cons entry later ih =>
      obtain ⟨k, v⟩ := entry
      have hnew : k ∉ front.map Prod.fst := by
        rw [List.map_append, List.map_cons, List.nodup_middle, List.nodup_cons] at hnodup
        exact fun hmem => hnodup.1 (List.mem_append_left _ hmem)
      have hstep : put k v (front ++ entries) = (front ++ [(k, v)]) ++ entries.tail ∧
          entries.tail.map Prod.fst <+: later.map Prod.fst := by
        cases entries with
        | nil => exact ⟨by rw [put_append_of_notMem hnew, put, List.tail_nil, List.append_nil], List.nil_prefix⟩
        | cons first rest =>
            obtain ⟨hkey, hrest⟩ := List.cons_prefix_cons.mp hkeys
            refine ⟨?_, hrest⟩
            rw [put_append_of_notMem hnew, put, if_pos (by simpa using hkey), hkey]
            simp
      rw [update, List.foldl_cons, hstep.1, ← update, ih _ hstep.2 (by simpa using hnodup), List.append_assoc,
        List.singleton_append]

/-- Entries of which **one has been put** replace what they were before. -/
theorem update_put (h : (entries.map Prod.fst).Nodup) :
    update entries (put key value entries) = put key value entries :=
  update_append [] (keys_prefix_put key value entries) (nodup_keys_put h)

end Entries

namespace Cursor

/-! ### Looking ahead -/

variable {lines : List Text} {index : Nat}

/-- What stands at a place **and behind it**. -/
theorem lineAt_of_drop {line : Text} {rest : List Text} (h : lines.drop index = line :: rest) :
    lineAt lines index = .ok line ∧ lines.drop (index + 1) = rest ∧ index < lines.length := by
  have hline : lines[index]? = some line := by rw [← List.head?_drop, h, List.head?_cons]
  refine ⟨by simp only [lineAt, hline], by rw [← List.tail_drop, h, List.tail_cons], ?_⟩
  exact (List.getElem?_eq_some_iff.mp hline).1

/-- Looking for a form looks at **the lines behind** the place. -/
theorem formAhead_eq (lines : List Text) (index : Nat) :
    formAhead lines index = .ok (Block.formNext (lines.drop (index + 1))) := by
  unfold formAhead
  cases hdrop : lines.drop (index + 1) with
  | nil => rw [if_neg (Nat.not_lt.mpr (List.drop_eq_nil_iff.mp hdrop))]; rfl
  | cons line rest =>
      obtain ⟨hline, -, hlt⟩ := lineAt_of_drop hdrop
      rw [if_pos hlt, hline]
      rfl

/-- Looking for a grid looks at **the lines behind** the place. -/
theorem gridAhead_eq (lines : List Text) (index : Nat) :
    gridAhead lines index = .ok (Block.gridNext (lines.drop (index + 1))) := by
  unfold gridAhead
  cases hdrop : lines.drop (index + 1) with
  | nil =>
      have hle := List.drop_eq_nil_iff.mp hdrop
      rw [if_neg (by omega)]
      rfl
  | cons header following =>
      obtain ⟨hheader, hbehind, -⟩ := lineAt_of_drop hdrop
      cases following with
      | nil =>
          have hle := List.drop_eq_nil_iff.mp hbehind
          rw [if_neg (by omega)]
          rfl
      | cons row rest =>
          obtain ⟨hrow, -, hlt⟩ := lineAt_of_drop hbehind
          rw [if_pos hlt, hheader, hrow]
          simp only [bind, Except.bind, Except.map, Block.gridNext]
          cases isGridLine header <;> rfl

/-- **The block behind a place** is the one that the lines there begin with. -/
theorem blockBehind_eq (lines : List Text) (index : Nat) :
    blockBehind lines index =
      ((Block.read? (lines.drop (index + 1))).map fun block => (block, block.elim 0 Block.size)).mapError
        .specification := by
  rw [blockBehind, formAhead_eq, gridAhead_eq]
  cases hdrop : lines.drop (index + 1) with
  | nil => rfl
  | cons header following =>
      obtain ⟨hheader, hbehind, -⟩ := lineAt_of_drop hdrop
      simp only [gridBehind, hheader, hbehind, Block.read?, bind, Except.bind]
      cases Block.formNext (header :: following) with
      | true => rfl
      | false =>
          cases Block.gridNext (header :: following) with
          | false => rfl
          | true => cases Grid.read header following <;> rfl

/-! ### The machine and the reader of lists -/

/-- A machine **keeps** what the reader of lists has read. There is one list of scenarios, with all scenarios in their
order, and the document and its feature hold this list. -/
structure Keeps (s : Cursor) (r : Reading) : Prop where
  list : s.document.list = 0
  lists : s.store.lists = [List.range s.store.scenarios.length]
  scenarios : s.store.scenarios = r.close.scenarios
  shared : ∀ feature ∈ s.document.feature, feature.list = 0
  headers : s.headers = r.headers

/-- What a machine has in its hands, **as its mode promises**, when the reader of lists is in a part. -/
def Holds (s : Cursor) (r : Reading) : Prop :=
  match r.part with
  | .opening => s.mode = .outside ∧ s.kind = .unclear ∧ s.document.feature.map FeatureDraft.toFeature = r.feature
  | .description name texts =>
    s.mode = .inDescription ∧ s.description = texts ∧ (∀ t ∈ texts, Text.trim t = t ∧ t ≠ []) ∧
      s.document.feature.map FeatureDraft.toFeature = some ⟨name, [], r.headers⟩
  | .scenario _ last =>
    s.mode = .inScenario ∧ s.scenario = some r.scenarios.length ∧ s.kind.known? = last ∧
      s.document.feature.map FeatureDraft.toFeature = r.feature

/-- A machine **represents** what the reader of lists has read and where it is. -/
structure Represents (s : Cursor) (r : Reading) : Prop extends s.Keeps r where
  holds : s.Holds r

/-- An action **follows** the reader of lists: it takes up what this takes up and moves the cursor over as many lines,
or it stops at the same fault of the specification and has changed nothing but the kind of the last step. It does not
stop in a description. -/
inductive Follows (s : Cursor) :
    EStateM.Result CursorFault Cursor Unit → Except SpecFault (Reading × Nat) → Prop
  | read {s' : Cursor} {r : Reading} {skip : Nat} :
      s'.Represents r → s'.index = s.index + skip → Follows s (.ok () s') (.ok (r, skip))
  | stopped {fault : SpecFault} (kind : StepKind) :
      s.mode ≠ .inDescription → Follows s (.error (.specification fault) { s with kind := kind }) (.error fault)

variable {language : Language} {s s' : Cursor} {r : Reading} {line : Text} {ps : List Paragraph}

/-- In front of the first line the machine represents **nothing read**. -/
theorem represents_start : start.Represents Reading.start where
  list := rfl
  lists := rfl
  scenarios := rfl
  shared := by simp [start]
  headers := rfl
  holds := ⟨rfl, rfl, rfl⟩

/-- What the machine has in its hands **in front of the scenarios**. -/
theorem Represents.opening (h : s.Represents r) (hr : r.part = .opening) :
    s.mode = .outside ∧ s.kind = .unclear ∧ s.document.feature.map FeatureDraft.toFeature = r.feature := by
  simpa only [Holds, hr] using h.holds

/-- What the machine has in its hands **in a description**. -/
theorem Represents.description {name : Text} {texts : List Text} (h : s.Represents r)
    (hr : r.part = .description name texts) :
    s.mode = .inDescription ∧ s.description = texts ∧ (∀ t ∈ texts, Text.trim t = t ∧ t ≠ []) ∧
      s.document.feature.map FeatureDraft.toFeature = some ⟨name, [], r.headers⟩ := by
  simpa only [Holds, hr] using h.holds

/-- In a description there is **a feature**, with a name and headers and without a description. -/
theorem Represents.draft {name : Text} {texts : List Text} (h : s.Represents r)
    (hr : r.part = .description name texts) :
    ∃ draft, s.document.feature = some draft ∧ draft.name = name ∧ draft.description = [] ∧
      draft.headers = r.headers := by
  obtain ⟨-, -, -, hfeature⟩ := h.description hr
  obtain ⟨draft, hdraft, hdrafted⟩ := Option.map_eq_some_iff.mp hfeature
  obtain ⟨hname, hempty, hheaders⟩ := Feature.mk.inj hdrafted
  exact ⟨draft, hdraft, hname, hempty, hheaders⟩

/-- What the machine has in its hands **in a scenario**. -/
theorem Represents.scenario {current : Scenario} {last : Option StepKind} (h : s.Represents r)
    (hr : r.part = .scenario current last) :
    s.mode = .inScenario ∧ s.scenario = some r.scenarios.length ∧ s.kind.known? = last ∧
      s.document.feature.map FeatureDraft.toFeature = r.feature := by
  simpa only [Holds, hr] using h.holds

/-- Outside a description the feature is **the one that is complete**, and both know the kind of the last step. -/
theorem Represents.outside (h : s.Represents r) (hpart : ∀ name texts, r.part ≠ .description name texts) :
    s.mode ≠ .inDescription ∧ s.document.feature.map FeatureDraft.toFeature = r.feature ∧
      r.close.feature = r.feature ∧ r.hasFeature = r.feature.isSome ∧ s.kind.known? = r.lastKind := by
  unfold Reading.close Reading.hasFeature Reading.lastKind
  cases hr : r.part with
  | description name texts => exact absurd hr (hpart name texts)
  | opening =>
      obtain ⟨hmode, hkind, hfeature⟩ := h.opening hr
      exact ⟨by simp [hmode], hfeature, rfl, rfl, congrArg StepKind.known? hkind⟩
  | scenario current last =>
      obtain ⟨hmode, -, hkind, hfeature⟩ := h.scenario hr
      exact ⟨by simp [hmode], hfeature, rfl, rfl, hkind⟩

/-- What a machine represents does not depend on **where the cursor is**. -/
theorem Represents.of_index (h : s.Represents r) (index : Nat) : ({ s with index := index } : Cursor).Represents r :=
  ⟨⟨h.list, h.lists, h.scenarios, h.shared, h.headers⟩, h.holds⟩

/-! ### The parts of a document -/

/-- **A feature is opened**, unless there is one. -/
theorem Represents.startFeature (h : s.Represents r) (hpart : ∀ name texts, r.part ≠ .description name texts)
    (title : Text) : s.Follows ((Cursor.startFeature title).run s) ((r.openFeature title).map (·, 0)) := by
  obtain ⟨hmode, hfeature, -, hhas, -⟩ := h.outside hpart
  have hsome : s.document.feature.isSome = r.hasFeature := by rw [hhas, ← hfeature, Option.isSome_map]
  have hrun : (Cursor.startFeature title).run s =
      if r.hasFeature then .error (.specification (.secondFeature title)) s
      else .ok () { s with
        document := { s.document with feature := some ⟨title, [], s.headers, s.document.list⟩ }
        description := []
        mode := .inDescription } := by
    simp only [Cursor.startFeature, EStateM.run_bind, EStateM.run_get, hsome]
    cases r.hasFeature <;> rfl
  rw [hrun, Reading.openFeature]
  cases r.hasFeature with
  | true => exact .stopped s.kind hmode
  | false =>
      refine .read ⟨⟨?list, ?lists, ?scenarios, ?shared, ?headers⟩, ?holds⟩ rfl
      case list => exact h.list
      case lists => exact h.lists
      case scenarios => exact h.scenarios
      case shared =>
        intro feature hmem
        obtain rfl := Option.some.inj hmem
        exact h.list
      case headers => exact h.headers.trans r.headers_close.symm
      case holds => exact ⟨rfl, rfl, by simp, by rw [h.headers, ← r.headers_close]; rfl⟩

/-- **A description is finished**, and trimming line ends changes nothing about it: its lines are trimmed. -/
theorem Represents.finishDescription {name : Text} {texts : List Text} (h : s.Represents r)
    (hpart : r.part = .description name texts) :
    ∃ s', Cursor.finishDescription.run s = .ok () s' ∧ s'.Keeps r ∧
      s'.document.feature.map FeatureDraft.toFeature = r.close.feature ∧ s'.mode = .outside ∧ s'.index = s.index := by
  obtain ⟨-, htexts, htrimmed, -⟩ := h.description hpart
  obtain ⟨draft, hdraft, hname, -, hheaders⟩ := h.draft hpart
  have hrun : Cursor.finishDescription.run s = .ok () { s with
      document := { s.document with
        feature := some { draft with description := Text.trimLineEnds (Text.join "\n" s.description) } }
      mode := .outside } := by
    simp only [Cursor.finishDescription, currentFeature, EStateM.run_bind, EStateM.run_get, hdraft]
    rfl
  have hdescription : Text.trimLineEnds (Text.join "\n" s.description) = Text.join "\n" texts := by
    rw [htexts, Text.trimLineEnds_eq_self (Text.trim_join htrimmed).1]
  refine ⟨_, hrun, ⟨h.list, h.lists, h.scenarios, ?_, h.headers⟩, ?_, rfl, rfl⟩
  · intro feature hmem
    obtain rfl := Option.some.inj hmem
    exact h.shared draft hdraft
  · have hclose : r.close.feature = some ⟨name, Text.join "\n" texts, r.headers⟩ := by simp [Reading.close, hpart]
    rw [hclose, ← hdescription, ← hname, ← hheaders]
    rfl

/-- **A scenario is opened**, behind a description that is finished or another part. -/
theorem Keeps.startScenario (h : s.Keeps r)
    (hfeature : s.document.feature.map FeatureDraft.toFeature = r.close.feature) (title : Text) :
    ∃ s', (Cursor.startScenario title).run s = .ok () s' ∧ s'.Represents (r.openScenario title) ∧
      s'.index = s.index := by
  have hscenarios : (r.openScenario title).close.scenarios = r.close.scenarios ++ [⟨title, []⟩] := rfl
  refine ⟨_, rfl, ⟨⟨?list, ?lists, ?scenarios, ?shared, ?headers⟩, ?holds⟩, rfl⟩
  case list => exact h.list
  case lists => simp [h.lists, h.list, List.range_succ]
  case scenarios => rw [hscenarios, ← h.scenarios]
  case shared => exact h.shared
  case headers => exact h.headers.trans r.headers_close.symm
  case holds => exact ⟨rfl, congrArg (fun scenarios => some scenarios.length) h.scenarios, rfl, hfeature⟩

/-- What comes of **reading a named header**. -/
theorem run_readHeader (line : Text) (s : Cursor) :
    (readHeader line).run s =
      match namedHeader? line with
      | none => .ok false s
      | some header => .ok true { s with
          headers := Entries.put header.1 header.2 s.headers
          document := { s.document with
            feature := s.document.feature.map fun feature =>
              { feature with
                headers := Entries.update feature.headers (Entries.put header.1 header.2 s.headers) } } } := by
  unfold readHeader
  cases namedHeader? line <;> rfl

/-- **A named header is taken up**, and a feature that is there gets it too. -/
theorem Represents.readHeader {header : Text × Text} (h : s.Represents r) (hafter : Reading.After language ps r)
    (hpart : ∀ current last, r.part ≠ .scenario current last) (hheader : namedHeader? line = some header) :
    ∃ s', (Cursor.readHeader line).run s = .ok true s' ∧ s'.Represents (r.addHeader header) ∧ s'.index = s.index := by
  have hput : Entries.put header.1 header.2 s.headers = (r.addHeader header).headers := by
    rw [h.headers]
    rfl
  have hnodup : (r.headers.map Prod.fst).Nodup := hafter.headers ▸ Entries.nodup_keys_ofPairs _
  rw [run_readHeader, hheader]
  refine ⟨_, rfl, ⟨⟨?list, ?lists, ?scenarios, ?shared, ?headers⟩, ?holds⟩, rfl⟩
  case list => exact h.list
  case lists => exact h.lists
  case scenarios => exact h.scenarios.trans (r.scenarios_close_addHeader header).symm
  case shared =>
    intro feature hmem
    obtain ⟨draft, hdraft, rfl⟩ := Option.map_eq_some_iff.mp hmem
    exact h.shared draft hdraft
  case headers => exact hput
  case holds =>
    have hsame : (r.addHeader header).part = r.part := rfl
    unfold Holds
    rw [hsame]
    cases hr : r.part with
    | scenario current last => exact absurd hr (hpart current last)
    | opening =>
        obtain ⟨hmode, hkind, hfeature⟩ := h.opening hr
        have hnone : s.document.feature = none := by
          rw [hafter.opening hr] at hfeature
          exact Option.map_eq_none_iff.mp hfeature
        exact ⟨hmode, hkind, by rw [hnone]; exact (hafter.opening hr).symm⟩
    | description name texts =>
        obtain ⟨hmode, htexts, htrimmed, -⟩ := h.description hr
        obtain ⟨draft, hdraft, hname, hempty, hheaders⟩ := h.draft hr
        refine ⟨hmode, htexts, htrimmed, ?_⟩
        have hupdate : Entries.update draft.headers (Entries.put header.1 header.2 s.headers) =
            (r.addHeader header).headers := by
          rw [hheaders, h.headers, Entries.update_put hnodup]
          rfl
        rw [hdraft, ← hupdate, ← hname, ← hempty]
        rfl

/-! ### Steps -/

/-- The kind of a step in a scenario is **known**. -/
theorem known?_of_classify {kind : StepKind} {keyword : Text} (hafter : Reading.After language ps r)
    (h : Reading.classify language r.lastKind line = .ok (kind, keyword)) : kind.known? = some kind := by
  have hlast : ∀ kind ∈ r.lastKind, kind ∈ StepKind.all := by
    intro kind hkind
    unfold Reading.lastKind at hkind
    cases hr : r.part with
    | opening | description name texts => simp [hr] at hkind
    | scenario current last =>
        have hlast := hafter.last current last hr
        have hmem : current ∈ r.close.scenarios := by simp [Reading.close, hr]
        simp only [hr] at hkind
        rw [hlast] at hkind
        obtain ⟨step, hstep, rfl⟩ := Option.map_eq_some_iff.mp hkind
        exact (hafter.follows current hmem).kind_mem_all step (List.mem_of_getLast? hstep)
  have hall : kind ∈ StepKind.all := (Reading.follows_of_classify h none).kind_mem_all hlast
  revert hall
  cases kind <;> decide

/-- What comes of **reading a step**. -/
theorem run_readStep (language : Language) (lines : List Text) (line : Text) (s : Cursor) :
    (readStep language lines line).run s =
      match Reading.classify language s.kind.known? line with
      | .error fault => .error (.specification fault) s
      | .ok (kind, keyword) =>
        if s.mode = .inScenario then
          match blockBehind lines s.index with
          | .error fault => .error fault { s with kind := kind }
          | .ok (block, consumed) =>
            match s.scenario with
            | none => .error .noScenario { s with kind := kind }
            | some place => .ok () { s with
                kind := kind
                store := { s.store with
                  scenarios := s.store.scenarios.modify place fun scenario =>
                    { scenario with steps := scenario.steps ++ [⟨kind, line, keyword, block⟩] } }
                index := s.index + consumed }
        else .error (.specification (.stepOutsideScenario line)) s := by
  simp only [readStep, currentScenario, EStateM.run_bind, EStateM.run_get]
  cases Reading.classify language s.kind.known? line with
  | error fault => rfl
  | ok found =>
      simp only [Except.mapError, settle, EStateM.run_pure]
      split
      · simp only [EStateM.run_bind, EStateM.run_get, EStateM.run_modify]
        cases blockBehind lines s.index with
        | error fault => rfl
        | ok block => cases s.scenario <;> rfl
      · rfl

/-- **A step is taken up** with its block, or it is none, or it stands outside a scenario, or its block is at fault. -/
theorem Represents.readStep (h : s.Represents r) (hafter : Reading.After language ps r)
    (hpart : ∀ name texts, r.part ≠ .description name texts) (lines : List Text) (line : Text) :
    s.Follows ((Cursor.readStep language lines line).run s)
      (r.addStep language line (lines.drop (s.index + 1))) := by
  obtain ⟨hmode, hfeature, -, -, hkind⟩ := h.outside hpart
  rw [run_readStep, hkind, Reading.addStep]
  cases hclassify : Reading.classify language r.lastKind line with
  | error fault => exact .stopped s.kind hmode
  | ok found =>
      obtain ⟨kind, keyword⟩ := found
      cases hr : r.part with
      | description name texts => exact absurd hr (hpart name texts)
      | opening =>
          simp only [(h.opening hr).1]
          exact .stopped s.kind hmode
      | scenario current last =>
          obtain ⟨hin, hplace, -, -⟩ := h.scenario hr
          have hclose : r.close.scenarios = r.scenarios ++ [current] := by simp [Reading.close, hr]
          simp only [if_pos hin, blockBehind_eq]
          cases Block.read? (lines.drop (s.index + 1)) with
          | error fault => exact .stopped kind hmode
          | ok block =>
              simp only [Except.map, Except.mapError, hplace]
              refine .read ⟨⟨h.list, ?lists, ?scenarios, h.shared, h.headers⟩, ?holds⟩ rfl
              case lists => simp [h.lists]
              case scenarios => simp [h.scenarios.trans hclose, Reading.close, List.modify_eq_take_drop]
              case holds => exact ⟨hin, rfl, known?_of_classify hafter hclassify, hfeature⟩

/-! ### Lines -/

/-- **A line outside a description** is taken up. -/
theorem Represents.readLine (h : s.Represents r) (hafter : Reading.After language ps r)
    (hpart : ∀ name texts, r.part ≠ .description name texts) (lines : List Text) (line : Text) :
    s.Follows ((Cursor.readLine language lines line).run s)
      (r.addLine language line (lines.drop (s.index + 1))) := by
  obtain ⟨-, hfeature, hclose, -⟩ := h.outside hpart
  unfold Cursor.readLine
  cases htitle : title? (language.spellings .feature) line with
  | some title =>
      have hadd : r.addLine language line (lines.drop (s.index + 1)) = (r.openFeature title).map (·, 0) := by
        unfold Reading.addLine
        cases hr : r.part with
        | description name texts => exact absurd hr (hpart name texts)
        | opening | scenario current last => simp only [htitle]
      rw [hadd]
      exact h.startFeature hpart title
  | none =>
    cases hscenario : title? (language.spellings .scenario) line with
    | some title =>
        obtain ⟨s', hrun, hopened, hindex⟩ := h.toKeeps.startScenario (hfeature.trans hclose.symm) title
        rw [Reading.addLine_of_title r htitle hscenario]
        simp only [hrun]
        exact .read hopened hindex
    | none =>
        cases hr : r.part with
        | description name texts => exact absurd hr (hpart name texts)
        | opening =>
            have hmode := (h.opening hr).1
            simp only [Reading.addLine, hr, htitle, hscenario, EStateM.run_bind, EStateM.run_get, hmode, if_true]
            cases hheader : namedHeader? line with
            | some header =>
                obtain ⟨s', hrun, hheaded, hindex⟩ := h.readHeader hafter (by simp [hr]) hheader
                simp only [hrun]
                exact .read hheaded hindex
            | none =>
                simp only [run_readHeader, hheader]
                exact h.readStep hafter hpart lines line
        | scenario current last =>
            have hmode := (h.scenario hr).1
            simp only [Reading.addLine, hr, htitle, hscenario, EStateM.run_bind, EStateM.run_get, hmode]
            exact h.readStep hafter hpart lines line

/-- **A line in a description** is taken up. -/
theorem Represents.readDescriptionLine {name : Text} {texts : List Text} (h : s.Represents r)
    (hafter : Reading.After language ps r) (hpart : r.part = .description name texts)
    (hline : Text.trim line = line ∧ line ≠ []) (following : List Text) :
    s.Follows ((Cursor.readDescriptionLine language line).run s) (r.addLine language line following) := by
  unfold Cursor.readDescriptionLine Reading.addLine
  cases hscenario : title? (language.spellings .scenario) line with
  | some title =>
      obtain ⟨s₁, hfinished, hkeeps, hfeature, -, hindex₁⟩ := h.finishDescription hpart
      obtain ⟨s₂, hrun, hopened, hindex₂⟩ := hkeeps.startScenario hfeature title
      simp only [hpart, EStateM.run_bind, hfinished, hrun]
      exact .read hopened (hindex₂.trans hindex₁)
  | none =>
      simp only [hpart, EStateM.run_bind]
      cases hheader : namedHeader? line with
      | some header =>
          obtain ⟨s', hrun, hheaded, hindex⟩ := h.readHeader hafter (by simp [hpart]) hheader
          simp only [hrun]
          exact .read hheaded hindex
      | none =>
          obtain ⟨hmode, htexts, htrimmed, hfeature⟩ := h.description hpart
          simp only [run_readHeader, hheader]
          refine .read ⟨⟨h.list, h.lists, ?scenarios, h.shared, h.headers⟩, ?holds⟩ rfl
          case scenarios => exact h.scenarios.trans (by simp [Reading.close, hpart])
          case holds =>
            exact ⟨hmode, congrArg (· ++ [line]) htexts,
              List.forall_mem_append.mpr ⟨htrimmed, List.forall_mem_singleton.mpr hline⟩, hfeature⟩

/-- **The line at the cursor is taken up** as the reader of lists takes it up. -/
theorem Represents.readCurrent {lines following : List Text} (h : s.Represents r)
    (hafter : Reading.After language ps r) (hdrop : lines.drop s.index = line :: following)
    (hline : Text.trim line = line ∧ line ≠ []) :
    s.Follows ((Cursor.readCurrent language lines).run s) (r.addLine language line following) := by
  obtain ⟨hat, hfollowing, -⟩ := lineAt_of_drop hdrop
  have hsettle : (settle (lineAt lines s.index)).run s = .ok line s := by
    rw [hat]
    rfl
  simp only [Cursor.readCurrent, EStateM.run_bind, EStateM.run_get, hsettle]
  cases hr : r.part with
  | description name texts =>
      simp only [(h.description hr).1, if_true]
      exact h.readDescriptionLine hafter hr hline following
  | opening | scenario current last =>
      have hpart : ∀ name texts, r.part ≠ .description name texts := by simp [hr]
      simp only [if_neg (h.outside hpart).1, ← hfollowing]
      exact h.readLine hafter hpart lines line

end Cursor

end PlainSpec
