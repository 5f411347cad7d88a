import PlainSpec.Data.Reader
import PlainSpec.Definition.Signature

/-!
# File trees

The files that a run can see are a tree below the working directory. A file holds a text, bytes that may
spell a text, a tree of data, or the items of a step module. Every folder on the way to a file is a node of
its own.

## Main results

* `FileTree.node?_insert`: what stands at a place after a node has been put there.
-/

namespace PlainSpec

/-- What a **file** holds. -/
inductive FileContent
  | text (t : Text)
  | bytes (bytes : List UInt8)
  | data (datum : Datum)
  | brokenData
  | module (items : List ModuleItem)
  deriving Repr

/-- What stands at a **place** of a file tree. -/
inductive FileNode
  | folder
  | file (content : FileContent)
  deriving Repr

/-- Whether a node is a **folder**. -/
def FileNode.isFolder : FileNode → Bool
  | folder => true
  | file _ => false

/-- A **file tree**: its nodes by their places, a place being the names on the way to it. -/
structure FileTree where
  nodes : List (List Text × FileNode)
  deriving Repr

namespace FileTree

/-- The tree **without files**. -/
def empty : FileTree := ⟨[]⟩

/-- What stands **at a place**; the top is a folder. -/
def node? (tree : FileTree) : List Text → Option FileNode
  | [] => some .folder
  | place => tree.nodes.lookup place

/-- Put a node **at a place**, in the place of what stands there. -/
def insert (tree : FileTree) (place : List Text) (node : FileNode) : FileTree :=
  ⟨(place, node) :: tree.nodes.filter (·.1 != place)⟩

theorem node?_insert (tree : FileTree) (name : Text) (names : List Text) (node : FileNode) :
    (tree.insert (name :: names) node).node? (name :: names) = some node := by
  simp [node?, insert]

/-- **Follow** names from a place. Two dots lead up, and nothing is above the top. -/
def walk (tree : FileTree) (path : Path) : List Text → List Text → Except FileFault (List Text)
  | place, [] => .ok place
  | place, name :: rest =>
    match tree.node? place with
    | some .folder =>
      if name = ['.', '.'] then
        if place.isEmpty then .error (.missing path) else tree.walk path place.dropLast rest
      else
        let next := place ++ [name]
        if (tree.node? next).isSome then tree.walk path next rest else .error (.missing path)
    | some (.file _) => .error (.notDirectory path)
    | none => .error (.missing path)

/-- The **place** to which a path leads. -/
def place (tree : FileTree) (path : Path) : Except FileFault (List Text) := tree.walk path [] path.names

/-- The **node** to which a path leads. -/
def find (tree : FileTree) (path : Path) : Except FileFault FileNode :=
  match tree.place path with
  | .error fault => .error fault
  | .ok place =>
    match tree.node? place with
    | some node => .ok node
    | none => .error (.missing path)

/-- Whether a path leads **anywhere**. -/
def hasPath (tree : FileTree) (path : Path) : Bool := (tree.find path).toBool

/-- Whether a path leads to a **folder**. -/
def hasFolder (tree : FileTree) (path : Path) : Bool :=
  match tree.find path with
  | .ok node => node.isFolder
  | .error _ => false

/-- The names on the ways from a path to **everything below** it. -/
def below (tree : FileTree) (path : Path) : List (List Text × FileNode) :=
  match tree.place path with
  | .error _ => []
  | .ok top => tree.nodes.filterMap fun (place, node) =>
      if top.isPrefixOf place && top.length < place.length then some (place.drop top.length, node) else none

/-- The names **in the folder** to which a path leads. -/
def children (tree : FileTree) (path : Path) : List (Text × FileNode) :=
  (tree.below path).filterMap fun (names, node) =>
    match names with
    | [name] => some (name, node)
    | _ => none

/-! ### Reading -/

/-- A text with every line break that may end a line of a file as a **line feed**. -/
def unifyLineBreaks : Text → Text
  | [] => []
  | '\r' :: '\n' :: rest => '\n' :: unifyLineBreaks rest
  | c :: rest => (if c = '\r' then '\n' else c) :: unifyLineBreaks rest

/-- The text that bytes **spell**, if they do. -/
def decode? (bytes : List UInt8) : Option Text := (String.fromUTF8? ⟨bytes.toArray⟩).map String.toList

/-- The **text** of what a file holds; data and modules have none. -/
def textOf : FileContent → Except FileFault Text
  | .text t => .ok (unifyLineBreaks t)
  | .bytes bytes =>
    match decode? bytes with
    | some t => .ok (unifyLineBreaks t)
    | none => .error .undecodable
  | _ => .ok []

/-- The **content** of the file to which a path leads. -/
def read (tree : FileTree) (path : Path) : Except FileFault FileContent :=
  match tree.find path with
  | .error fault => .error fault
  | .ok .folder => .error (.isDirectory path)
  | .ok (.file content) => .ok content

/-- The **text** of the file to which a path leads. -/
def readText (tree : FileTree) (path : Path) : Except FileFault Text := (tree.read path).bind textOf

/-- The **data** in the file to which a path leads, or what is wrong with it. -/
def readData (tree : FileTree) (path : Path) : Except FileFault (Except DataFault Datum) :=
  (tree.read path).bind fun content =>
    match content with
    | .data datum => .ok (.ok datum)
    | .brokenData => .ok (.error .malformed)
    | content => (textOf content).map Datum.ofText

/-! ### Writing -/

/-- Make all **folders** on the way along a path that are not there yet. -/
def makeFoldersFrom (path : Path) (tree : FileTree) : List Text → List Text → Except FileFault FileTree
  | _, [] => .ok tree
  | place, name :: rest =>
    if name = ['.', '.'] then makeFoldersFrom path tree place.dropLast rest
    else
      let next := place ++ [name]
      match tree.node? next with
      | some .folder => makeFoldersFrom path tree next rest
      | some (.file _) => .error (if rest.isEmpty then .alreadyThere path else .notDirectory path)
      | none => makeFoldersFrom path (tree.insert next .folder) next rest

/-- Make a **folder**, and the folders above it. -/
def makeFolder (tree : FileTree) (path : Path) : Except FileFault FileTree :=
  makeFoldersFrom path tree [] path.names

/-- **Write** a file into a folder that is there. -/
def write (tree : FileTree) (path : Path) (content : FileContent) : Except FileFault FileTree :=
  match tree.place path.parent with
  | .error fault => .error fault
  | .ok place =>
    let next := place ++ [path.name]
    match tree.node? next with
    | some .folder => .error (.isDirectory path)
    | _ => .ok (tree.insert next (.file content))

/-- Write a file **and the folders** above it. -/
def put (tree : FileTree) (path : Path) (content : FileContent) : Except FileFault FileTree :=
  (tree.makeFolder path.parent).bind fun tree => tree.write path content

end FileTree

end PlainSpec
