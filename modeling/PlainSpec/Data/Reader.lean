import PlainSpec.Data.Node
import PlainSpec.Data.Word

/-!
# Reading data trees

Data is written in YAML. A node of it spells a tree of data: its tag, or else its spelling, says what kind of
scalar a text is, and a mapping may merge the entries of other mappings into its own.

## Main results

* `Datum.ofText_nil`: a text without any line holds nothing.
-/

namespace PlainSpec

namespace Node

/-- The beginning of the **common tags**. -/
def commonTags : Text := "tag:yaml.org,2002:"

/-- The **common name** of a tag. -/
def commonName? (tag : Text) : Option Text := Text.afterPrefix? commonTags tag

/-- Whether a list or mapping may have a **tag**: none, the empty one, or that of its kind. -/
def hasKind (kind : Text) : Option Text → Bool
  | none => true
  | some tag => tag == "!" || commonName? tag == some kind

/-- The kind of scalar that a **text** spells. A text in quotation marks or in a block is itself unless its
tag says otherwise. -/
def textKind? : Option Text → Bool → Text → Option WordKind
  | none, isPlain, t => some (if isPlain then WordKind.ofWord t else .text)
  | some tag, _, t =>
    if tag == "!" then some (WordKind.ofWord t)
    else (commonName? tag).bind fun name => WordKind.names.lookup name

/-- The **kind** of scalar that a node spells, if it is a text. -/
def kind? : Node → Option WordKind
  | text tag isPlain t => textKind? tag isPlain t
  | _ => none

/-- The scalar of a **key**; lists and mappings are no keys. -/
def keyScalar : Node → Except DataFault Scalar
  | text tag isPlain t =>
    match textKind? tag isPlain t with
    | some .default => .ok (.text t)
    | some kind => kind.read t
    | none => .error .malformed
  | _ => .error .malformed

mutual

/-- The **data** that a node spells. -/
def toDatum : Node → Except DataFault Datum
  | text tag isPlain t =>
    match textKind? tag isPlain t with
    | some kind => (kind.read t).map Datum.scalar
    | none => .error .malformed
  | list tag items =>
    if hasKind "seq" tag then (toData items).map Datum.list else .error .malformed
  | mapping tag entries =>
    if hasKind "map" tag then (toEntries entries).map fun pairs => .mapping (Entries.ofPairs pairs)
    else .error .malformed

/-- The data that **nodes** spell. -/
def toData : List Node → Except DataFault (List Datum)
  | [] => .ok []
  | node :: rest => do
    let value ← toDatum node
    let values ← toData rest
    return value :: values

/-- All **entries** that a mapping has, those that it merges into its own first. -/
def toEntries (entries : List (Node × Node)) : Except DataFault DataEntries := do
  let merged ← mergedEntries entries
  let own ← ownEntries entries
  return merged ++ own

/-- The **own entries** of a mapping. -/
def ownEntries : List (Node × Node) → Except DataFault DataEntries
  | [] => .ok []
  | (key, value) :: rest =>
    if key.kind? == some .merge then ownEntries rest
    else do
      let key ← key.keyScalar
      let value ← toDatum value
      let others ← ownEntries rest
      return (key, value) :: others

/-- The entries that a mapping **merges** into its own. -/
def mergedEntries : List (Node × Node) → Except DataFault DataEntries
  | [] => .ok []
  | (key, value) :: rest =>
    if key.kind? == some .merge then do
      let added ← sourceEntries value
      let others ← mergedEntries rest
      return added ++ others
    else mergedEntries rest

/-- The entries of the mapping, or of the list of mappings, that **is merged**; of a list the first mapping
comes last, so that its entries count. -/
def sourceEntries : Node → Except DataFault DataEntries
  | mapping _ entries => do
    let merged ← mergedEntries entries
    let own ← ownEntries entries
    return merged ++ own
  | list _ items => sourceItems items
  | text _ _ _ => .error .malformed

/-- The entries of **several mappings** that are merged, the last one's first. -/
def sourceItems : List Node → Except DataFault DataEntries
  | [] => .ok []
  | mapping _ entries :: rest => do
    let merged ← mergedEntries entries
    let own ← ownEntries entries
    let others ← sourceItems rest
    return others ++ merged ++ own
  | _ :: _ => .error .malformed

end

end Node

namespace Datum

/-- Whether a character may stand in **written data**. -/
def mayBeWritten (c : Char) : Bool :=
  c == '\t' || c == '\n' || c == '\r' || c == '\u0085' ||
    inRanges [(0x20, 0x7E), (0xA0, 0xD7FF), (0xE000, 0xFFFD), (0x10000, 0x10FFFF)] c.toNat

/-- The **data** that a text spells; a text without any spells nothing. -/
def ofText (t : Text) : Except DataFault Datum :=
  if !t.all mayBeWritten then .error .malformed
  else do
    let tokens ← Token.ofText t
    match ← Node.ofTokens tokens with
    | some node => node.toDatum
    | none => return null

theorem ofText_nil : ofText [] = .ok null := rfl

end Datum

end PlainSpec
