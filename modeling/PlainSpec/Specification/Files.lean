import PlainSpec.Files.Wildcard
import PlainSpec.Language.File
import PlainSpec.Specification.Reader

/-!
# Specification files

Specification files are named one by one, by a folder, or by a path with wildcards. A folder stands for
everything below it that is named like a specification.
-/

namespace PlainSpec

/-- Read the **document** that a text spells, in the language that it names. -/
def Document.ofText (table : LanguageTable) (text : Text) : Except Failure Document :=
  match table.language (languageCode text table.default) with
  | .error keyword => .error (.missingKey keyword.name)
  | .ok language =>
    match Document.ofLines language (significantLines text) with
    | .error fault => .error (.specification fault none)
    | .ok document => .ok document

/-- Read the document **in a file**; a fault names the file. -/
def Document.ofFile (table : LanguageTable) (tree : FileTree) (path : Path) : Except Failure Document :=
  match tree.readText path with
  | .error fault => .error (.file fault)
  | .ok text =>
    match Document.ofText table text with
    | .error (.specification fault none) => .error (.specification fault (some path))
    | outcome => outcome

/-- The **suffixes** of specification files. -/
def specificationSuffixes : List Text := [".txt", ".feature", ".spec"]

namespace FileTree

/-- What is **below a folder** and is named like a specification, in order. -/
def specificationsBelow (tree : FileTree) (folder : Path) : List Path :=
  (((tree.below folder).map fun (names, _) => folder.append ⟨names⟩).filter fun path =>
    specificationSuffixes.contains path.suffix).mergeSort Path.before

/-- The paths that **one entry** of a list of files stands for. -/
def specificationsOf (tree : FileTree) (entry : Text) : List Path :=
  let path := Path.ofText entry
  if hasWildcards entry then tree.expand entry
  else if tree.hasFolder path then tree.specificationsBelow path
  else [path]

/-- The **specification files** that a list of entries stands for, each once, in the order in which they
are first mentioned. -/
def specifications (tree : FileTree) (entries : List Text) : List Path :=
  (entries.flatMap tree.specificationsOf).foldl
    (fun seen path => if seen.contains path then seen else seen ++ [path]) []

end FileTree

/-- Read the documents in **all files** that a list of entries stands for. -/
def Document.ofFiles (table : LanguageTable) (tree : FileTree) (entries : List Text) :
    Except Failure (List (Path × Document)) :=
  (tree.specifications entries).mapM fun path => do
    return (path, ← Document.ofFile table tree path)

end PlainSpec
