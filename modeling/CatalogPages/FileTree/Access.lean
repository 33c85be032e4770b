/-
**Reading and writing files.**

* `FileTree.readText`, `FileTree.writeText`: a file by its path, whose faults name the path;
* `FileTree.openNode`, `FileTree.create`: the first half of each;
* `FileTree.nodeText`, `FileTree.fill`: the second half.
-/

import CatalogPages.Fault
import CatalogPages.FileTree.Path

namespace CatalogPages

/-- The fault that the system gives. -/
def SystemFault.toFault (fault : SystemFault) : Fault :=
  .of fault.message

namespace FileTree

/-- Opens what a path leads to for reading. -/
def openNode (tree : FileTree) (path : String) : Except SystemFault FileNode := do
  match ← tree.resolve path with
  | .present _ node => return node
  | .vacant _ | .vacantDirectory => throw .notFound

/-- The text of something that has been opened. -/
def nodeText : FileNode → Except SystemFault String
  | .file bytes =>
    match String.fromUTF8? bytes with
    | some text => .ok text
    | none => .error .notText
  | .directory => .error .isDirectory
  | .link _ | .fullDevice => .error .notText

/-- The text of the file at a path. -/
def readText (tree : FileTree) (path : String) : Except Fault String := do
  let node ← within (.of "failed to open file for reading" [("file path", path)])
    ((tree.openNode path).mapError SystemFault.toFault)
  within (.of "failed to read file as UTF-8 text" [("file path", path)])
    ((nodeText node).mapError SystemFault.toFault)

/-- Where a path leads that may name a file to be made. A path that ends in a slash names a
directory, if there could be one. -/
def creationTarget (tree : FileTree) (path : String) : Except SystemFault Destination := do
  match (Path.names path).reverse with
  | "" :: more =>
    let above := (more.dropWhile (· == "")).tail.reverse
    match ← tree.follow linkLimit (tree.start path) above with
    | .present _ .directory => return .vacantDirectory
    | .present .. => throw .notDirectory
    | .vacant _ | .vacantDirectory => throw .notFound
  | _ => tree.resolve path

/-- Opens what a path leads to for writing, or makes it. A file loses what it held. -/
def create (tree : FileTree) (path : String) : Except SystemFault (FileTree × Location) := do
  checkPath path
  match ← tree.creationTarget path with
  | .present _ .directory | .vacantDirectory => throw .isDirectory
  | .present location .fullDevice => return (tree, location)
  | .present location _ | .vacant location =>
    return (tree.put location (.file ByteArray.empty), location)

/-- Writes a text to what has been opened. -/
def fill (tree : FileTree) (location : Location) (text : String) :
    Except SystemFault FileTree :=
  match tree.node? location with
  | some .fullDevice => if text.isEmpty then .ok tree else .error .noSpace
  | _ => .ok (tree.put location (.file text.toUTF8))

/-- Writes a text to the file at a path. -/
def writeText (tree : FileTree) (path text : String) : Except Fault FileTree := do
  let (opened, location) ←
    within (.of "failed to open/create file for writing" [("file path", path)])
      ((tree.create path).mapError SystemFault.toFault)
  within (.of "failed to write file" [("file path", path)])
    ((opened.fill location text).mapError SystemFault.toFault)

end FileTree

end CatalogPages
