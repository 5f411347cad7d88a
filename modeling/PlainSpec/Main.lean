import PlainSpec.CommandLine.Run

/-!
# The command line

Everything is decided by `runProgram`. What is left to do here is to read the files below the working
directory and the variables that they may ask for, and to write and print what the command ended with. A
file is read as bytes; a step module that is a file of text defines no steps.
-/

namespace PlainSpec

/-- The **nodes below a folder**, down to so many levels. What cannot be read is passed over. -/
def readNodes : Nat → List Text → IO.FS.DirEntry → IO (List (List Text × FileNode))
  | 0, _, _ => return []
  | levels + 1, place, folder => do
    let nodes ← (← folder.path.readDir).toList.mapM fun entry => do
      let next := place ++ [entry.fileName.toList]
      match ← (readNodes levels next entry).toBaseIO with
      | .ok below => return (next, .folder) :: below
      | .error _ =>
        match ← (IO.FS.readBinFile entry.path).toBaseIO with
        | .ok bytes => return [(next, .file (.bytes bytes.toList))]
        | .error _ => return []
    return nodes.flatten

/-- The most **levels of folders** that are read. -/
def deepestLevel : Nat := 64

/-- The **files** below the working directory. -/
def readFiles : IO FileTree := return ⟨← readNodes deepestLevel [] ⟨".", "."⟩⟩

/-- The **variables** of the environment that files may ask for, and the one that sets the level of the
log. -/
def readVariables (tree : FileTree) : IO Variables := do
  let texts := tree.nodes.filterMap fun (_, node) =>
    match node with
    | .file content => (FileTree.textOf content).toOption
    | .folder => none
  let names := "SPECBIND_LOG_LEVEL".toList :: texts.flatMap Settings.variableNames
  names.eraseDups.filterMapM fun name => do
    return (← IO.getEnv (String.ofList name)).map fun value => (name, value.toList)

/-- **Write** a file, and the folders above it. -/
def writeFile (path : Path) (text : Text) : IO Unit := do
  IO.FS.createDirAll (String.ofList path.parent.toText)
  IO.FS.writeFile (String.ofList path.toText) (String.ofList text)

end PlainSpec

open PlainSpec in
/-- The **program**: its arguments are a command, and what it returns is the exit code. -/
def main (arguments : List String) : IO UInt32 := do
  let tree ← readFiles
  let ending := runProgram tree (← readVariables tree) (arguments.map String.toList)
  for (path, text) in ending.written do
    writeFile path text
  for record in ending.log do
    IO.eprintln (String.ofList (logLine "specbind" record.severity.level record.message))
  IO.print (String.ofList ending.printed)
  IO.eprint (String.ofList ending.complaint)
  return UInt32.ofNat ending.exitCode
