import PlainSpec.Data.Quotation

/-!
# Passages

A text without quotation marks is a passage. A plain one goes on over lines that are indented, and is folded
like a quotation. A block stands on lines of its own below a mark: behind a bar its lines are kept as they
are, behind an angle bracket neighbouring lines are joined by spaces.
-/

namespace PlainSpec

namespace Place

/-! ### Plain passages -/

/-- Whether a character is one of the **brackets and commas** between which lists and mappings may be
written. -/
def isFlowMark (c : Char) : Bool := c == ',' || c == '[' || c == ']' || c == '\x7b' || c == '\x7d'

/-- The part of a **plain passage** in front, up to white space or a colon that ends a key; between brackets
also up to a bracket, a comma or a question mark. -/
def leadingPart (inFlow : Bool) : Text → Text
  | [] => []
  | c :: rest =>
    if endsToken (some c) || (inFlow && (isFlowMark c || c == '?')) then []
    else if c == ':' && (endsToken rest.head? || (inFlow && rest.head?.elim false isFlowMark)) then []
    else c :: leadingPart inFlow rest

/-- The breaks of **empty lines** in a plain passage, the place being behind a line break; and the place
behind the spaces in front of what follows. There are none where documents are divided. -/
def plainLines : Nat → Place → Option Text × Place
  | 0, p => (none, p)
  | fuel + 1, p =>
    if p.isAtBoundary then (none, p)
    else
      let p := p.skipSpaces
      match p.lineBreak? with
      | some (c, p) => ((plainLines fuel p).1.map (c :: ·), (plainLines fuel p).2)
      | none => (some [], p)

/-- What **joins** the part of a plain passage before a place to the next one, if one may follow; whether the
line ended; and the place behind it. -/
def joint (fuel : Nat) (p : Place) : Text × Bool × Place :=
  let blanks := p.leading (· == ' ')
  let p := p.skip blanks.length
  match p.lineBreak? with
  | none => (blanks, false, p)
  | some (first, p) =>
    match plainLines fuel p with
    | (some others, p) => (folded first others, true, p)
    | (none, p) => ([], true, p)

/-- A **plain passage** that is indented up to a margin; whether the line ended behind its last part; and the
place behind it. -/
def plain (inFlow : Bool) (margin : Nat) : Nat → Place → Text × Bool × Place
  | 0, p => ([], false, p)
  | fuel + 1, p =>
    let part := leadingPart inFlow p.rest
    let (between, ended, q) := joint fuel (p.skip part.length)
    if between.isEmpty || q.isAt '#' || (!inFlow && q.column < margin) ||
        (leadingPart inFlow q.rest).isEmpty then (part, ended, q)
    else
      let (t, ended, q) := plain inFlow margin fuel q
      (part ++ between ++ t, ended, q)

/-! ### Blocks -/

/-- What becomes of the **line breaks at the end** of a block: one is left, none is, or all are. -/
inductive BlockEnd
  | one
  | none
  | all
  deriving DecidableEq, Repr

/-- The mark for the **end of a block**. -/
def blockEnd? : Char → Option BlockEnd
  | '+' => some .all
  | '-' => some .none
  | _ => none

/-- The **marks of a block** behind its bar or bracket: what becomes of its end, and how far it is indented
if that is given; and the place behind them. -/
def blockMarks (p : Place) : Except DataFault (BlockEnd × Option Nat × Place) :=
  let ending (p : Place) : Option (BlockEnd × Place) := (p.peek.bind blockEnd?).map (·, p.next)
  let indent (p : Place) : Option (Nat × Place) :=
    (p.peek.filter Char.isDigit).map fun c => (digitValue c, p.next)
  let found : BlockEnd × Option Nat × Place :=
    match ending p with
    | some (e, p) =>
      match indent p with
      | some (n, p) => (e, some n, p)
      | none => (e, none, p)
    | none =>
      match indent p with
      | some (n, p) =>
        match ending p with
        | some (e, p) => (e, some n, p)
        | none => (.one, some n, p)
      | none => (.one, none, p)
  if found.2.1 == some 0 || !endsPart found.2.2.peek then .error .malformed else .ok found

/-- The breaks of **empty lines** in front of a block whose indentation is not given; the column that its
widest blank line reaches; and the place behind them. -/
def openingLines : Nat → Nat → Place → Text × Nat × Place
  | 0, widest, p => ([], widest, p)
  | fuel + 1, widest, p =>
    let p := p.skipSpaces
    let widest := max widest p.column
    match p.lineBreak? with
    | some (c, p) =>
      let (breaks, widest, p) := openingLines fuel widest p
      (c :: breaks, widest, p)
    | none => ([], widest, p)

/-- The place behind the **indentation** of a line. -/
def skipIndent (indent : Nat) (p : Place) : Place :=
  p.skip (min (indent - p.column) (p.leading (· == ' ')).length)

/-- The breaks of **empty lines** in a block, and the place behind the indentation of what follows. -/
def blockLines (indent : Nat) : Nat → Place → Text × Place
  | 0, p => ([], p)
  | fuel + 1, p =>
    let p := p.skipIndent indent
    match p.lineBreak? with
    | some (c, p) => (c :: (blockLines indent fuel p).1, (blockLines indent fuel p).2)
    | none => ([], p)

/-- Whether a line of a block is **indented further** than the block. -/
def isIndented (p : Place) : Bool := p.isAt ' ' || p.isAt '\t'

/-- The **lines** of a block, and the place behind them. -/
def blockText (joins : Bool) (ending : BlockEnd) (indent : Nat) : Nat → Place → Text × Place
  | 0, p => ([], p)
  | fuel + 1, p =>
    let line := p.leading fun c => !breaksLine c
    let q := p.skip line.length
    let (break?, q) : Text × Place := match q.lineBreak? with
      | some (c, q) => ([c], q)
      | none => ([], q)
    let (others, q) := blockLines indent fuel q
    if q.column == indent && !q.rest.isEmpty then
      let between := if joins && break? == ['\n'] && !p.isIndented && !q.isIndented then
          if others.isEmpty then [' '] else []
        else break?
      let (t, q) := blockText joins ending indent fuel q
      (line ++ between ++ others ++ t, q)
    else
      let last := match ending with
        | .one => break?
        | .none => []
        | .all => break? ++ others
      (line ++ last, q)

/-- A **block** below a mark that is indented at least up to a margin, the place being behind its bar or
bracket; and the place behind it. -/
def block (joins : Bool) (margin fuel : Nat) (p : Place) : Except DataFault (Text × Place) := do
  let (ending, given, p) ← p.blockMarks
  let p ← p.endLine
  let least := max margin 1
  let (breaks, indent, p) := match given with
    | some n =>
      let (breaks, p) := blockLines (least + n - 1) fuel p
      (breaks, least + n - 1, p)
    | none =>
      let (breaks, widest, p) := openingLines fuel 0 p
      (breaks, max least widest, p)
  if p.column == indent && !p.rest.isEmpty then
    let (t, p) := blockText joins ending indent fuel p
    return (breaks ++ t, p)
  else return (if ending = .all then breaks else [], p)

end Place

end PlainSpec
