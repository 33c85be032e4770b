/-
**The program.**

Standard input lists the paths of the release tree, one on each line, as in `find -L . | catalog`.
The files at those paths are read first, then the run is computed, and last what it changed is
written.
-/

import CatalogPages.CommandLine

namespace CatalogPages.Program

/-- The lines of a stream. -/
partial def readLines (stream : IO.FS.Stream) : IO (List String) := do
  let line ← stream.getLine
  if line.isEmpty then return []
  return (line.dropEndWhile (· == '\n')).toString :: (← readLines stream)

/-- The bytes of a file, if there is one at a path. -/
def bytesAt (path : String) : IO (Option ByteArray) := do
  try return some (← IO.FS.readBinFile path)
  catch _ => return none

/-- Adds what is at a listed path. A path without a file is a directory's. -/
def addListed (tree : FileTree) (path : String) : IO FileTree := do
  let location := tree.locate path
  let node := match ← bytesAt path with
    | some bytes => FileNode.file bytes
    | none => .directory
  return (tree.makeParents location).put location node

/-- Adds the file that an argument names, if there is one. -/
def addNamed (tree : FileTree) (path : String) : IO FileTree := do
  match ← bytesAt path with
  | some bytes =>
    let location := tree.locate path
    return (tree.makeParents location).put location (.file bytes)
  | none => return tree

/-- The tree that a run works on. -/
def survey (arguments : List String) : IO FileTree := do
  let start : FileTree := { nodes := [] }
  let directory := start.locate (toString (← IO.currentDir))
  let tree := { start with workingDirectory := directory }
  let tree := (tree.makeParents directory).put directory .directory
  let listed ← readLines (← IO.getStdin)
  arguments.foldlM addNamed (← listed.foldlM addListed tree)

/-- Writes the files of a tree that another does not have or has otherwise. -/
def writeChanges (before after : FileTree) : IO Unit := do
  for (location, node) in after.nodes do
    let old := match before.node? location with
      | some (.file bytes) => bytes.data
      | _ => #[]
    match node with
    | .file bytes =>
      if bytes.data != old then
        IO.FS.writeBinFile ("/" ++ "/".intercalate location) bytes
    | _ => pure ()

end CatalogPages.Program

open CatalogPages in
def main (arguments : List String) : IO UInt32 := do
  let tree ← Program.survey arguments
  let report := CommandLine.run arguments (← IO.getEnv "RUST_LOG") tree
  Program.writeChanges tree report.tree
  for event in report.log do
    (← IO.getStderr).putStrLn event.line
  (← IO.getStderr).putStr report.complaint
  (← IO.getStdout).putStr report.printed
  return report.exitCode.toUInt32
