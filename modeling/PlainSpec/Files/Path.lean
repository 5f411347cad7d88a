import PlainSpec.Text.Quoted

/-!
# Paths

A path is a list of names, relative to the working directory. Empty names and single dots do not count;
double dots do, because they have to be resolved against a file tree.
-/

namespace PlainSpec

/-- A **path**, by its names. -/
structure Path where
  names : List Text
  deriving DecidableEq, Repr, Inhabited

namespace Path

/-- The path that a text **denotes**. -/
def ofText (t : Text) : Path :=
  ⟨(Text.splitOn (· == '/') t).filter fun name => !name.isEmpty && name != ['.']⟩

/-- A path **as a text**; the working directory is a dot. -/
def toText (path : Path) : Text :=
  if path.names.isEmpty then ['.'] else Text.join "/" path.names

/-- The path **above**; above the working directory is itself. -/
def parent (path : Path) : Path := ⟨path.names.dropLast⟩

/-- Follow another path **from here**. -/
def append (path other : Path) : Path := ⟨path.names ++ other.names⟩

/-- The **last name** of a path. -/
def name (path : Path) : Text := path.names.getLast?.getD []

/-- A name **before and from its last dot**; a dot at either end of the name does not count. -/
def splitName (name : Text) : Text × Text :=
  let ending := (name.reverse.takeWhile (· != '.')).reverse
  let stem := name.take (name.length - ending.length - 1)
  if ending.length < name.length && !ending.isEmpty && !stem.isEmpty then (stem, '.' :: ending)
  else (name, [])

/-- The last name **without its suffix**. -/
def stem (path : Path) : Text := (splitName path.name).1

/-- The **suffix** of the last name, with its dot. -/
def suffix (path : Path) : Text := (splitName path.name).2

/-- The **order of paths**, name by name. -/
def before (a b : Path) : Bool :=
  !(List.lex b.names a.names fun x y => List.lex x y fun c d => c.toNat < d.toNat)

/-- The names that are left when double dots are **taken back**; at the top they stay. -/
def normalNames (path : Path) : List Text :=
  path.names.foldl (fun names name =>
    if name == ['.', '.'] && !names.isEmpty && names.getLast? != some ['.', '.'] then names.dropLast
    else names ++ [name]) []

/-- The names that lead to one place from another: **up** to where the ways to them part, and down again. -/
def namesFrom : List Text → List Text → List Text
  | a :: as, b :: bs => if a = b then namesFrom as bs else (b :: bs).map (fun _ => ['.', '.']) ++ a :: as
  | names, start => start.map (fun _ => ['.', '.']) ++ names

/-- The path **from a folder** to a path. -/
def relativeTo (path folder : Path) : Path := ⟨namesFrom path.normalNames folder.normalNames⟩

end Path

end PlainSpec
