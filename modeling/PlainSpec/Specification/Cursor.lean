import PlainSpec.Specification.Reader

/-!
# Reading with a cursor

The reader of a specification as a machine. It has all lines at hand and a cursor among them, and it builds the
document in place. What the next line can be is told by a mode, and what the reader has in its hands stands in fields
of their own: the scenario that it adds steps to, the lines of a description, the headers. The mode promises nothing
about these. An action that needs something which is not there stops the machine with a fault of its own, and so does
looking at a line that does not exist.

The document and its feature hold one list of scenarios between them. A store keeps the lists and the scenarios, and
they are referred to by their places in it, so that it can be told whether two holders have the same list.

## Main results

* `Cursor.index_lt_of_round`: a round moves the cursor on, and so reading comes to an end.
-/

namespace PlainSpec

/-- What the reader is **in the middle of**. -/
inductive Mode
  | outside
  | inDescription
  | inScenario
  deriving DecidableEq, Repr

/-- **Lists of scenarios, and scenarios**. A list holds the places of its scenarios. -/
structure ScenarioStore where
  lists : List (List Nat)
  scenarios : List Scenario
  deriving DecidableEq, Repr

/-- A feature that is **being built**, with the place of its list of scenarios. -/
structure FeatureDraft where
  name : Text
  description : Text
  headers : Record
  list : Nat
  deriving DecidableEq, Repr

/-- The feature, **as it stands**. -/
def FeatureDraft.toFeature (draft : FeatureDraft) : Feature := ⟨draft.name, draft.description, draft.headers⟩

/-- A document that is **being built**, with the place of its list of scenarios. -/
structure DocumentDraft where
  feature : Option FeatureDraft
  list : Nat
  deriving DecidableEq, Repr

/-- The reader **and its cursor**: the line that it is at, its mode, the place of the scenario that it adds steps to,
the kind of the last step, the lines of the description, the headers, and the document. -/
structure Cursor where
  index : Nat
  mode : Mode
  scenario : Option Nat
  kind : StepKind
  description : List Text
  headers : Record
  document : DocumentDraft
  store : ScenarioStore
  deriving DecidableEq, Repr

/-- Why the reader **stops**: at a fault of the specification, or because what it needs is not there. -/
inductive CursorFault
  | specification (fault : SpecFault)
  | noFeature
  | noScenario
  | noLine (index : Nat)
  deriving DecidableEq, Repr

/-- The kind of the step before, if it is **known**. -/
def StepKind.known? : StepKind → Option StepKind
  | .unclear => none
  | kind => some kind

/-- Drop the **line ends** on both sides. -/
def Text.trimLineEnds (t : Text) : Text :=
  dropEndWhile (fun c => c == '\r' || c == '\n') (t.dropWhile fun c => c == '\r' || c == '\n')

/-- Entries with others **put on top** of them, one after the other. -/
def Entries.update (entries later : Record) : Record :=
  later.foldl (fun all entry => put entry.1 entry.2 all) entries

namespace Cursor

/-- What the reader **does**. It keeps its state where it stops. -/
abbrev Action (α : Type) := EStateM CursorFault Cursor α

/-- The reader **in front of the first line**, with an empty document. -/
def start : Cursor := ⟨0, .outside, none, .unclear, [], [], ⟨none, 0⟩, ⟨[[]], []⟩⟩

/-- Do what an outcome **tells**: go on with it or stop. -/
def settle {α : Type} : Except CursorFault α → Action α
  | .ok a => pure a
  | .error fault => throw fault

/-! ### Looking at lines -/

/-- The **line at a place**. -/
def lineAt (lines : List Text) (index : Nat) : Except CursorFault Text :=
  match lines[index]? with
  | some line => .ok line
  | none => .error (.noLine index)

/-- Whether a **form** begins behind a place. -/
def formAhead (lines : List Text) (index : Nat) : Except CursorFault Bool :=
  if index + 1 < lines.length then (lineAt lines (index + 1)).map isFormLine else .ok false

/-- Whether a **grid** begins behind a place: a header and a row. -/
def gridAhead (lines : List Text) (index : Nat) : Except CursorFault Bool :=
  if index + 2 < lines.length then do
    let header ← lineAt lines (index + 1)
    if isGridLine header then (lineAt lines (index + 2)).map isGridLine else .ok false
  else .ok false

/-- Read the **grid** behind a place. -/
def gridBehind (lines : List Text) (index : Nat) : Except CursorFault Grid := do
  let header ← lineAt lines (index + 1)
  (Grid.read header (lines.drop (index + 2))).mapError .specification

/-- Read the **block** behind a place, if there is one, and tell how many lines it takes up. -/
def blockBehind (lines : List Text) (index : Nat) : Except CursorFault (Option Block × Nat) := do
  if ← formAhead lines index then
    let form := Block.form ⟨Form.read (lines.drop (index + 1))⟩
    return (some form, form.size)
  else if ← gridAhead lines index then
    let grid := Block.grid (← gridBehind lines index)
    return (some grid, grid.size)
  else return (none, 0)

/-! ### Actions -/

/-- The **feature** of the document, which has to be there. -/
def currentFeature : Action FeatureDraft := do
  match (← get).document.feature with
  | some feature => return feature
  | none => throw .noFeature

/-- The place of the **scenario** that steps are added to, which has to be there. -/
def currentScenario : Action Nat := do
  match (← get).scenario with
  | some place => return place
  | none => throw .noScenario

/-- Open a **feature**, unless there is one. It gets the list of scenarios that the document has. -/
def startFeature (name : Text) : Action Unit := do
  if (← get).document.feature.isSome then throw (.specification (.secondFeature name))
  else modify fun s => { s with
    document := { s.document with feature := some ⟨name, [], s.headers, s.document.list⟩ }
    description := []
    mode := .inDescription }

/-- Give the feature its **description**. -/
def finishDescription : Action Unit := do
  let feature ← currentFeature
  modify fun s => { s with
    document := { s.document with
      feature := some { feature with description := Text.trimLineEnds (Text.join "\n" s.description) } }
    mode := .outside }

/-- Open a **scenario** and add it to the list of the document. -/
def startScenario (name : Text) : Action Unit :=
  modify fun s => { s with
    scenario := some s.store.scenarios.length
    store := ⟨s.store.lists.modify s.document.list (· ++ [s.store.scenarios.length]),
      s.store.scenarios ++ [⟨name, []⟩]⟩
    kind := .unclear
    mode := .inScenario }

/-- Take up a **named header**, if the line is one, and tell whether it is. -/
def readHeader (line : Text) : Action Bool := do
  match namedHeader? line with
  | none => return false
  | some header =>
    modify fun s => { s with headers := Entries.put header.1 header.2 s.headers }
    modify fun s => { s with
      document := { s.document with
        feature := s.document.feature.map fun feature =>
          { feature with headers := Entries.update feature.headers s.headers } } }
    return true

/-- Add a **step** to the scenario that is being read, and pass over the lines of its block. -/
def readStep (language : Language) (lines : List Text) (line : Text) : Action Unit := do
  let (kind, keyword) ←
    settle ((Reading.classify language (← get).kind.known? line).mapError .specification)
  if (← get).mode = .inScenario then
    modify fun s => { s with kind := kind }
    let (block, consumed) ← settle (blockBehind lines (← get).index)
    let place ← currentScenario
    modify fun s => { s with
      store := { s.store with
        scenarios := s.store.scenarios.modify place fun scenario =>
          { scenario with steps := scenario.steps ++ [⟨kind, line, keyword, block⟩] } }
      index := s.index + consumed }
  else throw (.specification (.stepOutsideScenario line))

/-- Take up a line **outside a description**. -/
def readLine (language : Language) (lines : List Text) (line : Text) : Action Unit := do
  match title? (language.spellings .feature) line with
  | some title => startFeature title
  | none =>
    match title? (language.spellings .scenario) line with
    | some title => startScenario title
    | none =>
      if (← get).mode = .outside then
        if ← readHeader line then return
        else readStep language lines line
      else readStep language lines line

/-- Take up a line **in a description**. -/
def readDescriptionLine (language : Language) (line : Text) : Action Unit := do
  match title? (language.spellings .scenario) line with
  | some title =>
    finishDescription
    startScenario title
  | none =>
    if ← readHeader line then return
    else modify fun s => { s with description := s.description ++ [line] }

/-- Take up the line **at the cursor**. -/
def readCurrent (language : Language) (lines : List Text) : Action Unit := do
  let line ← settle (lineAt lines (← get).index)
  if (← get).mode = .inDescription then readDescriptionLine language line
  else readLine language lines line

/-- One **round**: take up the line at the cursor, and move on. -/
def round (language : Language) (lines : List Text) : Action Unit := do
  readCurrent language lines
  modify fun s => { s with index := s.index + 1 }

/-! ### The cursor moves on -/

/-- An action that **never moves the cursor back**. -/
def Forward {α : Type} (action : Action α) : Prop :=
  ∀ s s' a, action.run s = .ok a s' → s.index ≤ s'.index

section Forward

variable {α β : Type}

theorem forward_pure (a : α) : Forward (pure a) := by
  intro s s' b h
  obtain ⟨-, rfl⟩ := EStateM.Result.ok.inj h
  exact Nat.le_refl _

theorem forward_get : Forward get := by
  intro s s' b h
  obtain ⟨-, rfl⟩ := EStateM.Result.ok.inj h
  exact Nat.le_refl _

theorem forward_throw (fault : CursorFault) : Forward (throw fault : Action α) := by
  intro s s' b h
  exact absurd h (by rintro ⟨⟩)

theorem forward_settle (outcome : Except CursorFault α) : Forward (settle outcome) := by
  cases outcome with
  | ok a => exact forward_pure a
  | error fault => exact forward_throw fault

theorem forward_modify {f : Cursor → Cursor} (hf : ∀ s, s.index ≤ (f s).index) : Forward (modify f) := by
  intro s s' b h
  obtain ⟨-, rfl⟩ := EStateM.Result.ok.inj h
  exact hf s

theorem forward_bind {action : Action α} {next : α → Action β} (haction : Forward action)
    (hnext : ∀ a, Forward (next a)) : Forward (action >>= next) := by
  intro s s' b h
  rw [EStateM.run_bind] at h
  split at h
  · next a s₁ hs => exact Nat.le_trans (haction s s₁ a hs) (hnext a s₁ s' b h)
  · exact absurd h (by simp)

end Forward

theorem forward_currentFeature : Forward currentFeature := by
  refine forward_bind forward_get fun s => ?_
  split
  · exact forward_pure _
  · exact forward_throw _

theorem forward_currentScenario : Forward currentScenario := by
  refine forward_bind forward_get fun s => ?_
  split
  · exact forward_pure _
  · exact forward_throw _

theorem forward_startFeature (name : Text) : Forward (startFeature name) := by
  refine forward_bind forward_get fun s => ?_
  split
  · exact forward_throw _
  · exact forward_modify fun s => Nat.le_refl _

theorem forward_finishDescription : Forward finishDescription :=
  forward_bind forward_currentFeature fun _ => forward_modify fun _ => Nat.le_refl _

theorem forward_startScenario (name : Text) : Forward (startScenario name) :=
  forward_modify fun _ => Nat.le_refl _

theorem forward_readHeader (line : Text) : Forward (readHeader line) := by
  unfold readHeader
  split
  · exact forward_pure _
  · exact forward_bind (forward_modify fun _ => Nat.le_refl _) fun _ =>
      forward_bind (forward_modify fun _ => Nat.le_refl _) fun _ => forward_pure _

/-- Only a step moves the cursor within a round: **over the lines of its block**. -/
theorem forward_readStep (language : Language) (lines : List Text) (line : Text) :
    Forward (readStep language lines line) := by
  refine forward_bind forward_get fun s => forward_bind (forward_settle _) fun found =>
    forward_bind forward_get fun s => ?_
  split
  · refine forward_bind (forward_modify fun _ => Nat.le_refl _) fun _ => forward_bind forward_get fun s =>
      forward_bind (forward_settle _) fun block => forward_bind forward_currentScenario fun place => ?_
    exact forward_modify fun s => Nat.le_add_right _ _
  · exact forward_throw _

theorem forward_readLine (language : Language) (lines : List Text) (line : Text) :
    Forward (readLine language lines line) := by
  unfold readLine
  split
  · exact forward_startFeature _
  · split
    · exact forward_startScenario _
    · refine forward_bind forward_get fun s => ?_
      split
      · refine forward_bind (forward_readHeader line) fun found => ?_
        split
        · exact forward_pure _
        · exact forward_readStep language lines line
      · exact forward_readStep language lines line

theorem forward_readDescriptionLine (language : Language) (line : Text) :
    Forward (readDescriptionLine language line) := by
  unfold readDescriptionLine
  split
  · exact forward_bind forward_finishDescription fun _ => forward_startScenario _
  · refine forward_bind (forward_readHeader line) fun found => ?_
    split
    · exact forward_pure _
    · exact forward_modify fun _ => Nat.le_refl _

theorem forward_readCurrent (language : Language) (lines : List Text) : Forward (readCurrent language lines) := by
  refine forward_bind forward_get fun s => forward_bind (forward_settle _) fun line =>
    forward_bind forward_get fun s => ?_
  split
  · exact forward_readDescriptionLine language line
  · exact forward_readLine language lines line

/-- **A round moves the cursor on.** -/
theorem index_lt_of_round {language : Language} {lines : List Text} {s s' : Cursor} {u : Unit}
    (h : (round language lines).run s = .ok u s') : s.index < s'.index := by
  rw [round, EStateM.run_bind] at h
  split at h
  · next u s₁ hread =>
    obtain ⟨-, rfl⟩ := EStateM.Result.ok.inj h
    exact Nat.lt_succ_of_le (forward_readCurrent language lines s s₁ u hread)
  · exact absurd h (by simp)

/-! ### Reading all lines -/

/-- **Round after round**, as long as there is a line at the cursor. -/
def loop (language : Language) (lines : List Text) (s : Cursor) : EStateM.Result CursorFault Cursor Unit :=
  if s.index < lines.length then
    match _hround : (round language lines).run s with
    | .ok _ s' => loop language lines s'
    | .error fault s' => .error fault s'
  else .ok () s
termination_by lines.length - s.index
decreasing_by
  have hmoved := index_lt_of_round _hround
  omega

/-- Take up **all lines** from the cursor on. -/
def readAll (language : Language) (lines : List Text) : Action Unit := loop language lines

/-- The scenarios **in the list** at a place. -/
def listed (s : Cursor) (list : Nat) : List Scenario :=
  ((s.store.lists[list]?).getD []).filterMap fun place => s.store.scenarios[place]?

/-- The document that is being built, **as it stands**. -/
def toDocument (s : Cursor) (language : Text) : Document :=
  ⟨language, s.document.feature.map FeatureDraft.toFeature, s.listed s.document.list⟩

/-- Read the **document** that lines spell. A description that the lines end in is finished. -/
def read (language : Language) (lines : List Text) : Action Document := do
  readAll language lines
  if (← get).mode = .inDescription then finishDescription
  return (← get).toDocument language.code

end Cursor

end PlainSpec
