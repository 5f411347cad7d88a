import PlainSpec.Files.Tree

/-!
# Step modules in files

Step functions are loaded from a module, or from all modules in a folder. What was registered before a
module turned out to be broken stays registered.
-/

namespace PlainSpec

namespace Registry

/-- Register what is in **one file**. -/
def loadFile (r : Registry) (tree : FileTree) (path : Path) : Except Failure (List Definition) × Registry :=
  match tree.read path with
  | .error _ => (.error (.configuration (.noModule path)), r)
  | .ok content =>
    if !Text.endsWith path.toText ".py" then (.error .notLoadable, r)
    else
      let items := match content with
        | .module items => items
        | _ => []
      match ModuleNames.run [] items with
      | .error complaint => (.error (.configuration (.brokenModule path complaint)), r)
      | .ok names => r.registerNames names.scope names

/-- The **modules in a folder**, by name. -/
def modulesIn (tree : FileTree) (folder : Path) : List Path :=
  ((((tree.children folder).map Prod.fst).filter (Text.endsWith · ".py")).mergeSort Text.before).map
    fun name => folder.append ⟨[name]⟩

/-- Register what is in a file, or in the modules of a folder; a folder may be named like a module, so
many **levels** deep. -/
def loadWithin (tree : FileTree) : Nat → Registry → Path → Except Failure (List Definition) × Registry
  | 0, r, path => r.loadFile tree path
  | levels + 1, r, path =>
    if tree.hasFolder path then loadEach (loadWithin tree levels) r (modulesIn tree path)
    else r.loadFile tree path

/-- Register what is in a file, or in the modules of a **folder**. -/
def load (r : Registry) (tree : FileTree) (path : Path) : Except Failure (List Definition) × Registry :=
  loadWithin tree (tree.nodes.length + 1) r path

/-- Register what is in **several** files and folders. -/
def loadAll (r : Registry) (tree : FileTree) (paths : List Text) :
    Except Failure (List Definition) × Registry :=
  loadEach (fun r path => r.load tree (Path.ofText path)) r paths

end Registry

end PlainSpec
