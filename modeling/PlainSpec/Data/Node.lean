import PlainSpec.Data.Token

/-!
# Nodes

The tokens of written data form a tree of nodes: texts, lists and mappings, each with the tag that it was
given. A node that has been named may be asked for by its name further on, and stands there again.
-/

namespace PlainSpec

/-- A **node** of written data; whether a text is plain matters for what it spells. -/
inductive Node
  | text (tag : Option Text) (isPlain : Bool) (text : Text)
  | list (tag : Option Text) (items : List Node)
  | mapping (tag : Option Text) (entries : List (Node × Node))
  deriving Repr, Inhabited

namespace Node

/-- The node where **nothing** is written. -/
def empty : Node := text none true []

/-- How **deep** nodes may stand inside one another. -/
def deepest : Nat := 480

/-- What is known **between two nodes**: the tokens to come, the named nodes, of which those that are not
finished are not known yet, and the long forms of handles. -/
structure Reading where
  tokens : List Token
  named : List (Text × Option Node)
  handles : List (Text × Text)

/-- **Reading** a part of a tree. -/
abbrev Read (α : Type) := StateT Reading (Except DataFault) α

/-- The handles that need **no directive**. -/
def standardHandles : List (Text × Text) := [("!", "!"), ("!!", "tag:yaml.org,2002:")]

namespace Read

/-- The **next token**. -/
def peek : Read (Option Token) := do return (← get).tokens.head?

/-- Pass over the **next token**. -/
def advance : Read Unit := modify fun r => { r with tokens := r.tokens.drop 1 }

/-- **Give up.** -/
def fail {α : Type} (fault : DataFault) : Read α := throw fault

/-- The **long form** of a tag. -/
def longTag (handle : Option Text) (suffix : Text) : Read Text := do
  match handle with
  | none => return suffix
  | some handle =>
    match (← get).handles.lookup handle with
    | some beginning => return beginning ++ suffix
    | none => fail .malformed

/-- The **name** in front, if there is one. -/
def anchor? : Read (Option Text) := do
  match ← peek with
  | some (.anchor name) => do advance; return some name
  | _ => return none

/-- The **tag** in front, if there is one. -/
def tag? : Read (Option Text) := do
  match ← peek with
  | some (.tag handle suffix) => do advance; return some (← longTag handle suffix)
  | _ => return none

/-- The name and the tag in front, in **either order**. -/
def properties : Read (Option Text × Option Text) := do
  match ← anchor? with
  | some name => return (some name, ← tag?)
  | none => do
    match ← tag? with
    | some tag => return (← anchor?, some tag)
    | none => return (none, none)

/-- Note that a node **has a name**, which no other node of the document may have. -/
def reserve (name : Text) : Read Unit := do
  if ((← get).named.lookup name).isSome then fail .malformed
  modify fun r => { r with named := (name, none) :: r.named }

/-- Note **which node** has a name. -/
def define (name : Text) (node : Node) : Read Unit :=
  modify fun r => { r with named := (name, some node) :: r.named }

/-- The node **with a name**. A node cannot be asked for inside itself. -/
def called (name : Text) : Read Node := do
  match (← get).named.lookup name with
  | some (some node) => return node
  | some none => fail .nestedTooDeep
  | none => fail .malformed

mutual

/-- The **node** in front. Only in a block may it be written by indentation, and only below a key may a list
begin as far left as what is around it. -/
def node : Nat → Nat → Bool → Bool → Read Node
  | 0, _, _, _ => fail .malformed
  | fuel + 1, depth, inBlock, belowKey => do
    if deepest < depth then fail .nestedTooDeep
    match ← peek with
    | some (.alias name) => do
      advance
      called name
    | _ => do
      let (name, tag) ← properties
      match name with
      | some name => do
        reserve name
        let found ← content fuel depth inBlock belowKey true tag
        define name found
        return found
      | none => content fuel depth inBlock belowKey tag.isSome tag

/-- The node in front **behind its name and tag**; if it has any of them nothing need follow. -/
def content : Nat → Nat → Bool → Bool → Bool → Option Text → Read Node
  | 0, _, _, _, _, _ => fail .malformed
  | fuel + 1, depth, inBlock, belowKey, mayBeEmpty, tag => do
    let other : Read Node := if mayBeEmpty then pure (.text tag true []) else fail .malformed
    match ← peek with
    | some .item => if belowKey then return .list tag (← looseItems fuel depth) else other
    | some (.text isPlain t) => do
      advance
      return .text tag isPlain t
    | some .openList => do
      advance
      return .list tag (← flowItems fuel depth true)
    | some .openMapping => do
      advance
      return .mapping tag (← flowEntries fuel depth true)
    | some .startList =>
      if inBlock then do
        advance
        return .list tag (← blockItems fuel depth)
      else other
    | some .startMapping =>
      if inBlock then do
        advance
        return .mapping tag (← blockEntries fuel depth)
      else other
    | _ => other

/-- The node in front, or the **empty** one if one of some tokens is there instead. -/
def nodeUnless : Nat → Nat → Bool → Bool → List Token → Read Node
  | 0, _, _, _, _ => fail .malformed
  | fuel + 1, depth, inBlock, belowKey, others => do
    match ← peek with
    | some token =>
      if others.contains token then return empty else node fuel (depth + 1) inBlock belowKey
    | none => fail .malformed

/-- The **items** of a list that is written by indentation. -/
def blockItems : Nat → Nat → Read (List Node)
  | 0, _ => fail .malformed
  | fuel + 1, depth => do
    match ← peek with
    | some .item => do
      advance
      let first ← nodeUnless fuel depth true false [.item, .endBlock]
      return first :: (← blockItems fuel depth)
    | some .endBlock => do
      advance
      return []
    | _ => fail .malformed

/-- The items of a list **as far left** as the key that it belongs to. -/
def looseItems : Nat → Nat → Read (List Node)
  | 0, _ => fail .malformed
  | fuel + 1, depth => do
    match ← peek with
    | some .item => do
      advance
      let first ← nodeUnless fuel depth true false [.item, .key, .value, .endBlock]
      return first :: (← looseItems fuel depth)
    | _ => return []

/-- The **entries** of a mapping that is written by indentation. -/
def blockEntries : Nat → Nat → Read (List (Node × Node))
  | 0, _ => fail .malformed
  | fuel + 1, depth => do
    match ← peek with
    | some .key => do
      advance
      let key ← nodeUnless fuel depth true true [.key, .value, .endBlock]
      let value ← value fuel depth true [.key, .value, .endBlock]
      return (key, value) :: (← blockEntries fuel depth)
    | some .endBlock => do
      advance
      return []
    | _ => fail .malformed

/-- The **value** of a key, if there is one. -/
def value : Nat → Nat → Bool → List Token → Read Node
  | 0, _, _, _ => fail .malformed
  | fuel + 1, depth, inBlock, others => do
    match ← peek with
    | some .value => do
      advance
      nodeUnless fuel depth inBlock inBlock others
    | _ => return empty

/-- The **items** up to a closing bracket. A key makes an item a mapping of one entry. -/
def flowItems : Nat → Nat → Bool → Read (List Node)
  | 0, _, _ => fail .malformed
  | fuel + 1, depth, isFirst => do
    if !isFirst && (← peek) == some .comma then advance
    else if !isFirst && (← peek) != some .closeList then fail .malformed
    match ← peek with
    | some .closeList => do
      advance
      return []
    | some .key => do
      advance
      let key ← nodeUnless fuel (depth + 1) false false [.value, .comma, .closeList]
      let value ← value fuel (depth + 1) false [.comma, .closeList]
      return .mapping none [(key, value)] :: (← flowItems fuel depth false)
    | _ => do
      let first ← node fuel (depth + 1) false false
      return first :: (← flowItems fuel depth false)

/-- The **entries** up to a closing brace. -/
def flowEntries : Nat → Nat → Bool → Read (List (Node × Node))
  | 0, _, _ => fail .malformed
  | fuel + 1, depth, isFirst => do
    if !isFirst && (← peek) == some .comma then advance
    else if !isFirst && (← peek) != some .closeMapping then fail .malformed
    match ← peek with
    | some .closeMapping => do
      advance
      return []
    | some .key => do
      advance
      let key ← nodeUnless fuel depth false false [.value, .comma, .closeMapping]
      let value ← value fuel depth false [.comma, .closeMapping]
      return (key, value) :: (← flowEntries fuel depth false)
    | _ => do
      let key ← node fuel (depth + 1) false false
      return (key, empty) :: (← flowEntries fuel depth false)

end

/-- Note what the **head of a document** says: at most one version, and each handle once. -/
def heed (hasVersion : Bool) : List Directive → Read Unit
  | [] => return
  | .version major :: rest =>
    if hasVersion || numberOfDigits (major.map digitValue) != 1 then fail .malformed else heed true rest
  | .tag handle beginning :: rest => do
    if ((← get).handles.lookup handle).isSome then fail .malformed
    modify fun r => { r with handles := (handle, beginning) :: r.handles }
    heed hasVersion rest
  | .other :: rest => heed hasVersion rest

/-- The directive that a token **is**, if it is one. -/
def directive? : Token → Option Directive
  | .directive d => some d
  | _ => none

/-- The node of a **whole document**, if there is any document; nothing but its end may follow. -/
def document : Read (Option Node) := do
  let fuel := 4 * (← get).tokens.length + 4
  match ← peek with
  | none => return none
  | some token => do
    let found ← if token == .documentStart || (directive? token).isSome then do
        let directives := ((← get).tokens.takeWhile fun t => (directive? t).isSome).filterMap directive?
        modify fun r => { r with tokens := r.tokens.drop directives.length }
        heed false directives
        modify fun r => { r with handles := r.handles ++ standardHandles }
        if (← peek) != some .documentStart then fail .malformed
        advance
        match ← peek with
        | none | some .documentStart | some .documentEnd | some (.directive _) => pure empty
        | some _ => node fuel 1 true false
      else do
        modify fun r => { r with handles := standardHandles }
        node fuel 1 true false
    if (← get).tokens.all (· == .documentEnd) then return some found else fail .malformed

end Read

/-- The **node** that tokens form, if there are any. -/
def ofTokens (tokens : List Token) : Except DataFault (Option Node) :=
  (Read.document.run ⟨tokens, [], []⟩).map Prod.fst

end Node

end PlainSpec
