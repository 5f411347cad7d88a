import PlainSpec.Files.Tree

/-!
# Wildcards

A name may be given with wildcards: a star for any characters, a question mark for one character, and a
class of characters in brackets. A path with wildcards stands for all paths in a file tree that agree with
it name by name; a name of two stars stands for any number of folders. Hidden names, which begin with a
dot, have to be asked for by a dot.
-/

namespace PlainSpec

/-- One **piece** of a name with wildcards. A class is a list of ranges, and admits either the characters
in them or all others. -/
inductive WildcardPiece
  | char (c : Char)
  | anyChar
  | anyChars
  | oneOf (negated : Bool) (ranges : List (Char × Char))
  deriving DecidableEq, Repr

namespace WildcardPiece

/-- A class cut **at its hyphens**. The first part has at least so many characters, the others have two; a
hyphen at the very end stands for itself. -/
def parts (least : Nat) (t : Text) : List Text :=
  let size := least + ((t.drop least).takeWhile (· != '-')).length
  match h : t.drop size with
  | _ :: c :: rest =>
    have : (c :: rest).length < t.length := by
      have := congrArg List.length h
      simp only [List.length_drop, List.length_cons] at this ⊢
      omega
    t.take size :: parts 2 (c :: rest)
  | _ => [t]
termination_by t.length

/-- Parts **without empty ranges**: where the ends of a range are in the wrong order, both are dropped, and
the parts become one. -/
def withoutEmptyRanges (parts : List Text) : List Text :=
  parts.foldr (fun part later =>
    match part.getLast?, later with
    | some first, (last :: behind) :: others =>
      if last.toNat < first.toNat then (part.dropLast ++ behind) :: others else part :: later
    | _, _ => part :: later) []

/-- The **ranges** of a class, whose hyphens between two characters are given as `none`; another one stands
for itself. -/
def ranges : List (Option Char) → List (Char × Char)
  | first :: none :: last :: rest => (first.getD '-', last.getD '-') :: ranges rest
  | c :: rest => (c.getD '-', c.getD '-') :: ranges rest
  | [] => []

/-- The class that the text between brackets **spells**. An exclamation mark in front, or first after empty
ranges, negates it. -/
def ofClass (t : Text) : WildcardPiece :=
  let parts := withoutEmptyRanges (parts (if t.head? = some '!' then 2 else 1) t)
  match [none].intercalate (parts.map (List.map some)) with
  | some '!' :: rest => oneOf true (ranges rest)
  | all => oneOf false (ranges all)

/-- The text of a class and what stands **behind its bracket**. A bracket in the first place belongs to
the class, and so does one behind an exclamation mark in the first place. -/
def classText? (t : Text) : Option (Text × Text) :=
  let marked := if t.head? = some '!' then 1 else 0
  let first := if (t.drop marked).head? = some ']' then marked + 1 else marked
  let inner := (t.drop first).takeWhile (· != ']')
  match (t.drop first).drop inner.length with
  | _ :: rest => some (t.take first ++ inner, rest)
  | [] => none

/-- The pieces of a name, where `skip` characters belong to the **piece before**. A bracket that is never
closed stands for itself. -/
def readFrom : Nat → Text → List WildcardPiece
  | _, [] => []
  | skip + 1, _ :: rest => readFrom skip rest
  | 0, '*' :: rest => anyChars :: readFrom 0 rest
  | 0, '?' :: rest => anyChar :: readFrom 0 rest
  | 0, '[' :: rest =>
    match classText? rest with
    | some (inner, _) => ofClass inner :: readFrom (inner.length + 1) rest
    | none => char '[' :: readFrom 0 rest
  | 0, c :: rest => char c :: readFrom 0 rest

/-- The **pieces** of a name with wildcards. -/
def read (name : Text) : List WildcardPiece := readFrom 0 name

/-- Whether a piece admits **one character**. -/
def admits : WildcardPiece → Char → Bool
  | char c, d => c == d
  | anyChar, _ => true
  | anyChars, _ => false
  | oneOf negated ranges, d =>
    negated != ranges.any fun range => range.1.toNat ≤ d.toNat && d.toNat ≤ range.2.toNat

/-- Whether **nothing** agrees with pieces: with all of them, and with those behind each one. -/
def agreeEmpty : List WildcardPiece → List Bool
  | [] => [true]
  | piece :: rest =>
    let behind := agreeEmpty rest
    (piece == anyChars && behind.headD false) :: behind

/-- Whether **a character and what follows it** agree with pieces, with all of them and with those behind
each one, given this for what follows. -/
def agreeNext (c : Char) : List WildcardPiece → List Bool → List Bool
  | [], _ => [false]
  | piece :: rest, following =>
    let behind := agreeNext c rest following.tail
    let here :=
      match piece with
      | anyChars => behind.headD false || following.headD false
      | piece => piece.admits c && following.tail.headD false
    here :: behind

/-- Whether a name **agrees** with pieces. -/
def agree (pieces : List WildcardPiece) (name : Text) : Bool :=
  (name.foldr (agreeNext · pieces) (agreeEmpty pieces)).headD false

end WildcardPiece

/-- Whether a text **has wildcards**. -/
def hasWildcards (t : Text) : Bool := t.any fun c => c == '*' || c == '?' || c == '['

/-- Whether a name is **hidden**. -/
def isHidden (name : Text) : Bool := name.head? == some '.'

namespace FileTree

/-- A path followed by a name; of the **empty** path the name is left. -/
def joined (path name : Text) : Text :=
  if path.isEmpty then name
  else if path.getLast? = some '/' then path ++ name
  else path ++ '/' :: name

/-- All paths that lead from a path on **through a name** with wildcards. Unless the name is the last one,
only folders count. Two stars keep the path itself, whatever it is. -/
def through (tree : FileTree) (foldersOnly : Bool) (name path : Text) : List Text :=
  let admitted (node : FileNode) : Bool := !foldersOnly || node.isFolder
  if name.isEmpty then
    if !path.isEmpty && tree.hasFolder (Path.ofText path) then [joined path []] else []
  else if name = ['*', '*'] then
    joined path [] :: (tree.below (Path.ofText path)).filterMap fun (names, node) =>
      if names.any isHidden || !admitted node then none else some (joined path (Text.join "/" names))
  else if hasWildcards name then
    (tree.children (Path.ofText path)).filterMap fun (child, node) =>
      if (isHidden child && !isHidden name) || !admitted node then none
      else if WildcardPiece.agree (WildcardPiece.read name) child then some (joined path child) else none
  else if tree.hasPath (Path.ofText (joined path name)) then [joined path name]
  else []

/-- All paths that lead from given paths on through **names** with wildcards. -/
def throughAll (tree : FileTree) : List Text → List Text → List Text
  | paths, [] => paths
  | paths, name :: rest => tree.throughAll (paths.flatMap (tree.through (!rest.isEmpty) name)) rest

/-- The paths for a path **with wildcards**, in the order of their texts. -/
def expand (tree : FileTree) (pattern : Text) : List Path :=
  let names := Text.splitOn (· == '/') pattern
  let fixed := (names.takeWhile fun name => !hasWildcards name).filter (!·.isEmpty)
  let others := names.dropWhile fun name => !hasWildcards name
  let ending := if others.getLast? = some [] then [[]] else []
  let found := tree.throughAll [Text.join "/" fixed] (others.filter (!·.isEmpty) ++ ending)
  ((found.filter (!·.isEmpty)).mergeSort Text.before).map Path.ofText

end FileTree

end PlainSpec
