import PlainSpec.Proofs.CursorReading

/-!
# Sound reading

Nothing in a reader with a cursor keeps its mode and its hands together, and a block moves the cursor by as many lines
as another module says. This module shows that the two stay together in every round, up to the end or a fault.

The reader of lists cannot be in a wrong state: a part of a document holds what belongs to it. So the invariant is that
the machine represents a reader of lists, one that has read some paragraphs, and that its cursor is not behind the
lines (`Cursor.Stands`). What a machine should be like follows from it (`Cursor.Stands.sound`). A round keeps the
invariant or stops (`Cursor.Stands.round`), and by induction on the rounds so does reading (`Cursor.Stands.loop`). No
round needs what is not there, and so the reader stops at faults of the specification only.

## Main results

* `Cursor.Visited.stands`: the invariant holds at every state that reading comes to.
* `Cursor.read_sound`: a reader with a cursor is sound throughout, and reads what the reader of lists reads.
-/

namespace PlainSpec

namespace Cursor

/-- A machine is **sound**: the cursor is at a line or at the end of the lines; in a scenario, this is there, and the
last one in the list of the document; in a description, there is a feature; the feature holds the list of the document;
and the kinds of all steps are known. -/
structure Sound (lines : List Text) (s : Cursor) : Prop where
  index_le : s.index ≤ lines.length
  scenario : s.mode = .inScenario → ∃ place list, s.scenario = some place ∧ place < s.store.scenarios.length ∧
    s.store.lists[s.document.list]? = some list ∧ list.getLast? = some place
  feature : s.mode = .inDescription → s.document.feature.isSome = true
  shared : ∀ feature ∈ s.document.feature, feature.list = s.document.list
  known : ∀ scenario ∈ s.store.scenarios, ∀ step ∈ scenario.steps, step.kind ≠ .unclear

/-- A machine **stands** among lines where a reader of lists does, one that has read some paragraphs. -/
structure Stands (language : Language) (lines : List Text) (s : Cursor) (r : Reading) : Prop
    extends s.Represents r where
  after : ∃ ps, Reading.After language ps r
  index_le : s.index ≤ lines.length

/-- The states that a machine **visits**, after so many rounds. -/
inductive Visited (language : Language) (lines : List Text) : Nat → Cursor → Prop
  | start : Visited language lines 0 start
  | round {rounds : Nat} {s s' : Cursor} :
      Visited language lines rounds s → s.index < lines.length → (round language lines).run s = .ok () s' →
      Visited language lines (rounds + 1) s'

variable {language : Language} {lines : List Text} {s s' : Cursor} {r : Reading}

/-- A machine is sound **whatever the kind** of the last step is. -/
theorem Sound.of_kind (h : s.Sound lines) (kind : StepKind) : ({ s with kind := kind } : Cursor).Sound lines :=
  ⟨h.index_le, h.scenario, h.feature, h.shared, h.known⟩

/-- The steps that are kept **have known kinds**. -/
theorem Keeps.known (h : s.Keeps r) (hafter : ∃ ps, Reading.After language ps r) :
    ∀ scenario ∈ s.store.scenarios, ∀ step ∈ scenario.steps, step.kind ≠ .unclear := by
  obtain ⟨ps, hafter⟩ := hafter
  intro scenario hscenario step hstep hunclear
  rw [h.scenarios] at hscenario
  have hkind := (hafter.follows scenario hscenario).kind_mem_all step hstep
  rw [hunclear] at hkind
  exact absurd hkind (by decide)

/-- **The invariant says what a machine should be like.** -/
theorem Stands.sound (h : s.Stands language lines r) : s.Sound lines where
  index_le := h.index_le
  scenario hmode := by
    cases hr : r.part with
    | opening => exact absurd (hmode.symm.trans (h.opening hr).1) (by simp)
    | description name texts => exact absurd (hmode.symm.trans (h.description hr).1) (by simp)
    | scenario current last =>
        have hlength : s.store.scenarios.length = r.scenarios.length + 1 := by
          rw [h.scenarios]
          simp [Reading.close, hr]
        refine ⟨_, _, (h.scenario hr).2.1, by omega, by rw [h.lists, h.list]; rfl, ?_⟩
        rw [hlength, List.range_succ, List.getLast?_concat]
  feature hmode := by
    cases hr : r.part with
    | opening => exact absurd (hmode.symm.trans (h.opening hr).1) (by simp)
    | scenario current last => exact absurd (hmode.symm.trans (h.scenario hr).1) (by simp)
    | description name texts =>
        obtain ⟨draft, hdraft, -⟩ := h.draft hr
        rw [hdraft, Option.isSome_some]
  shared feature hmem := (h.shared feature hmem).trans h.list.symm
  known := h.toKeeps.known h.after

/-! ### Rounds -/

/-- In front of the first line the machine **stands where the reader of lists does**. -/
theorem stands_start (language : Language) (lines : List Text) : start.Stands language lines Reading.start where
  toRepresents := represents_start
  after := ⟨[], Reading.After.start⟩
  index_le := Nat.zero_le _

/-- **A round keeps the invariant**, and the reader of lists has the lines left that the machine has. Or both stop at
one fault of the specification, and the machine is sound and not in a description. -/
theorem Stands.round (h : s.Stands language lines r) (hlines : ∀ line ∈ lines, Text.trim line = line ∧ line ≠ [])
    (hindex : s.index < lines.length) :
    match (Cursor.round language lines).run s with
    | .ok _ s' => ∃ r', s'.Stands language lines r' ∧
        r.addLines language 0 (lines.drop s.index) = r'.addLines language 0 (lines.drop s'.index)
    | .error fault s' => s'.Sound lines ∧ s'.mode ≠ .inDescription ∧ ∃ specFault,
        fault = .specification specFault ∧ r.addLines language 0 (lines.drop s.index) = .error specFault := by
  obtain ⟨ps, hafter⟩ := h.after
  obtain ⟨line, following, hdrop⟩ : ∃ line following, lines.drop s.index = line :: following :=
    List.exists_cons_of_ne_nil (by simpa using hindex)
  obtain ⟨-, hfollowing, -⟩ := lineAt_of_drop hdrop
  have hmem : line ∈ lines := List.mem_of_mem_drop (hdrop ▸ List.mem_cons_self)
  have hfollows := h.toRepresents.readCurrent hafter hdrop (hlines line hmem)
  rw [hdrop, Reading.addLines]
  simp only [Cursor.round, EStateM.run_bind]
  generalize (readCurrent language lines).run s = result at hfollows ⊢
  cases hadd : r.addLine language line following with
  | error fault =>
      rw [hadd] at hfollows
      cases hfollows with
      | stopped kind hmode => exact ⟨h.sound.of_kind kind, hmode, fault, rfl, rfl⟩
  | ok found =>
      obtain ⟨r', skip⟩ := found
      rw [hadd] at hfollows
      cases hfollows with
      | @read s' _ _ hrepresents hmoved =>
          obtain ⟨p, -, -, hnext⟩ := Reading.exists_paragraph hadd
          -- the lines that are taken along are there, so the cursor is not moved behind the end
          have hskip := Reading.skip_le_of_addLine hadd
          have hlength : following.length = lines.length - (s.index + 1) := by rw [← hfollowing, List.length_drop]
          have hle : s'.index + 1 ≤ lines.length := by omega
          have hleft : lines.drop (s'.index + 1) = following.drop skip := by
            rw [← hfollowing, List.drop_drop, hmoved, Nat.add_right_comm]
          refine ⟨r', ⟨hrepresents.of_index (s'.index + 1), ⟨_, hnext ps hafter⟩, hle⟩, ?_⟩
          exact (Reading.addLines_skip r' skip following).trans (congrArg (r'.addLines language 0) hleft.symm)

/-- **The invariant holds at every state that reading comes to**, and there are no more rounds than lines. -/
theorem Visited.stands {rounds : Nat} (hlines : ∀ line ∈ lines, Text.trim line = line ∧ line ≠ [])
    (h : Visited language lines rounds s) : rounds ≤ s.index ∧ ∃ r, s.Stands language lines r := by
  induction h with
  | start => exact ⟨Nat.zero_le _, _, stands_start language lines⟩
  | round hvisited hindex hround ih =>
      obtain ⟨hrounds, r, hstands⟩ := ih
      have hkept := hstands.round hlines hindex
      rw [hround] at hkept
      obtain ⟨r', hstands', -⟩ := hkept
      exact ⟨Nat.lt_of_le_of_lt hrounds (index_lt_of_round hround), r', hstands'⟩

/-- **Round after round** the machine reads what the reader of lists reads, up to the end of the lines or to a fault. -/
theorem Stands.loop (h : s.Stands language lines r) (hlines : ∀ line ∈ lines, Text.trim line = line ∧ line ≠ []) :
    match Cursor.loop language lines s with
    | .ok _ s' => ∃ r', s'.Stands language lines r' ∧ s'.index = lines.length ∧
        r.addLines language 0 (lines.drop s.index) = .ok r'
    | .error fault s' => s'.Sound lines ∧ s'.mode ≠ .inDescription ∧ ∃ specFault,
        fault = .specification specFault ∧ r.addLines language 0 (lines.drop s.index) = .error specFault := by
  fun_induction Cursor.loop language lines s generalizing r with
  | case1 s hindex u s' hround ih =>
      have hkept := h.round hlines hindex
      rw [hround] at hkept
      obtain ⟨r', hstands, hleft⟩ := hkept
      rw [hleft]
      exact ih hstands
  | case2 s hindex fault s' hround =>
      have hstopped := h.round hlines hindex
      rwa [hround] at hstopped
  | case3 s hindex =>
      have hend : s.index = lines.length := Nat.le_antisymm h.index_le (Nat.not_lt.mp hindex)
      refine ⟨r, h, hend, ?_⟩
      rw [hend, List.drop_length, Reading.addLines]

/-- Reading **visits states**, up to one at the end of the lines or one in which a round stops. -/
theorem Visited.loop {rounds : Nat} (h : Visited language lines rounds s) :
    match Cursor.loop language lines s with
    | .ok _ e => ∃ rounds, Visited language lines rounds e
    | .error fault e => ∃ rounds s', Visited language lines rounds s' ∧ s'.index < lines.length ∧
        (Cursor.round language lines).run s' = .error fault e := by
  fun_induction Cursor.loop language lines s generalizing rounds with
  | case1 s hindex u s' hround ih => exact ih (h.round hindex hround)
  | case2 s hindex fault s' hround => exact ⟨rounds, s, h, hindex, hround⟩
  | case3 s hindex => exact ⟨rounds, h⟩

/-! ### Documents -/

/-- The elements at all places of a list **make up the list**. -/
theorem filterMap_getElem?_range {α : Type} (l : List α) : ((List.range l.length).filterMap fun i => l[i]?) = l := by
  induction l using List.reverseRecOn with
  | nil => rfl
  | append_singleton l a ih =>
      have hfront : ∀ i ∈ List.range l.length, (l ++ [a])[i]? = l[i]? := fun i hi =>
        List.getElem?_append_left (List.mem_range.mp hi)
      rw [List.length_append, List.length_singleton, List.range_succ, List.filterMap_append,
        List.filterMap_congr hfront, ih]
      simp

/-- The document as it stands is **the one that has been read**. -/
theorem Keeps.toDocument (h : s.Keeps r)
    (hfeature : s.document.feature.map FeatureDraft.toFeature = r.close.feature) (code : Text) :
    s.toDocument code = r.document code := by
  have hlisted : s.listed s.document.list = r.close.scenarios := by
    rw [listed, h.list, h.lists, ← h.scenarios]
    exact filterMap_getElem?_range s.store.scenarios
  rw [Cursor.toDocument, hfeature, hlisted, Reading.document]

/-- What comes of **reading**: what comes of the rounds, with a description that is open at the end finished. -/
theorem run_read (language : Language) (lines : List Text) (s : Cursor) :
    (read language lines).run s =
      match Cursor.loop language lines s with
      | .ok _ e =>
        match (if e.mode = .inDescription then finishDescription else pure ()).run e with
        | .ok _ s' => .ok (s'.toDocument language.code) s'
        | .error fault s' => .error fault s'
      | .error fault e => .error fault e := by
  have hloop : (readAll language lines).run s = Cursor.loop language lines s := rfl
  simp only [read, EStateM.run_bind, EStateM.run_get, hloop]
  cases Cursor.loop language lines s with
  | error fault e => rfl
  | ok u e =>
      dsimp only
      split
      · simp only [EStateM.run_bind, EStateM.run_get, EStateM.run_pure]
        cases finishDescription.run e <;> rfl
      · rfl

/-- At the end of the lines **a description is finished**, and the document is the one that has been read. -/
theorem Stands.finish (h : s.Stands language lines r) :
    ∃ s', (if s.mode = .inDescription then finishDescription else pure ()).run s = .ok () s' ∧
      (s' = s ∨ finishDescription.run s = .ok () s') ∧ s'.index = s.index ∧ s'.Sound lines ∧
      s'.mode ≠ .inDescription ∧ s'.toDocument language.code = r.document language.code := by
  by_cases hpart : ∃ name texts, r.part = .description name texts
  · obtain ⟨name, texts, hpart⟩ := hpart
    obtain ⟨s', hrun, hkeeps, hfeature, hmode, hindex⟩ := h.finishDescription hpart
    rw [if_pos (h.description hpart).1]
    refine ⟨s', hrun, .inr hrun, hindex, ?_, by simp [hmode], hkeeps.toDocument hfeature _⟩
    exact ⟨hindex.trans_le h.index_le, by simp [hmode], by simp [hmode],
      fun feature hmem => (hkeeps.shared feature hmem).trans hkeeps.list.symm, hkeeps.known h.after⟩
  · have hnot : ∀ name texts, r.part ≠ .description name texts := fun name texts hr => hpart ⟨name, texts, hr⟩
    obtain ⟨hmode, hfeature, hclose, -⟩ := h.outside hnot
    rw [if_neg hmode]
    exact ⟨s, rfl, .inl rfl, rfl, h.sound, hmode, h.toKeeps.toDocument (hfeature.trans hclose.symm) _⟩

/-- **A reader with a cursor is sound.** In every state that it visits, the cursor is at a line or at the end, and there
have been no more rounds than lines; in a scenario there is one, the last of the document, and in a description there
is a feature; the feature and the document hold one list of scenarios, and the kinds of all steps are known. Reading
comes to an end by rounds. Either it ends with a document and the cursor at the end of the lines, or a round at some
line stops at a fault of the specification, and at no other. It leaves no description open, and it reads what is read
from lists. -/
theorem read_sound (language : Language) (text : Text) :
    let lines := significantLines text
    (∀ rounds s, Visited language lines rounds s → rounds ≤ s.index ∧ s.Sound lines) ∧
      match (read language lines).run start with
      | .ok document s =>
        (∃ rounds e, Visited language lines rounds e ∧ (s = e ∨ finishDescription.run e = .ok () s)) ∧
          s.index = lines.length ∧ s.Sound lines ∧ s.mode ≠ .inDescription ∧
          Document.ofLines language lines = .ok document
      | .error fault s =>
        (∃ rounds e, Visited language lines rounds e ∧ e.index < lines.length ∧
          (round language lines).run e = .error fault s) ∧
          s.Sound lines ∧ s.mode ≠ .inDescription ∧
          ∃ specFault, fault = .specification specFault ∧ Document.ofLines language lines = .error specFault := by
  intro lines
  have hlines : ∀ line ∈ lines, Text.trim line = line ∧ line ≠ [] := fun line hline =>
    ⟨(mem_significantLines hline).1.trimmed, (mem_significantLines hline).2.1⟩
  refine ⟨fun rounds s hvisited => ?_, ?_⟩
  · obtain ⟨hrounds, r, hstands⟩ := hvisited.stands hlines
    exact ⟨hrounds, hstands.sound⟩
  · have hvisits := (Visited.start : Visited language lines 0 start).loop
    have hreads := (stands_start language lines).loop hlines
    rw [run_read]
    cases hloop : loop language lines start with
    | ok u e =>
        simp only [hloop] at hvisits hreads
        obtain ⟨rounds, hvisited⟩ := hvisits
        obtain ⟨r, hstands, hend, hread⟩ := hreads
        obtain ⟨s, hfinish, hlast, hindex, hsound, hmode, hdocument⟩ := hstands.finish
        simp only [hfinish]
        refine ⟨⟨rounds, e, hvisited, hlast⟩, hindex.trans hend, hsound, hmode, ?_⟩
        rw [hdocument, Document.ofLines]
        exact congrArg (Except.map (Reading.document · language.code)) hread
    | error fault e =>
        simp only [hloop] at hvisits hreads
        obtain ⟨hsound, hmode, specFault, hfault, hread⟩ := hreads
        refine ⟨hvisits, hsound, hmode, specFault, hfault, ?_⟩
        exact congrArg (Except.map (Reading.document · language.code)) hread

end Cursor

end PlainSpec
