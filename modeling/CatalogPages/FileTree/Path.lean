/-
**Paths.**

A path is a text with `/` between names. One that starts with `/` starts at the top, and any other
at the working directory.

* `Path.join`: a path seen from the directory of another;
* `FileTree.resolve`: where a path leads, through every link, with a limit on how many.
-/

import CatalogPages.FileTree.Basic

namespace CatalogPages

/-- Whether a path starts at the top. -/
def Path.isAbsolute (path : String) : Bool :=
  path.toList.head? == some '/'

/-- A path seen from a directory. A path that starts at the top stays as it is. -/
def Path.join (directory path : String) : String :=
  if Path.isAbsolute path then path
  else if directory.isEmpty || directory.toList.getLast? == some '/' then directory ++ path
  else directory ++ "/" ++ path

/-- The names of a path. Where two slashes meet, and after a last one, the name is empty. -/
def Path.names (path : String) : List String :=
  (path.toList.splitOnP (· == '/')).map String.ofList

namespace FileTree

/-- Where a path leads. -/
inductive Destination where
  | present (location : Location) (node : FileNode)
  /-- Nothing is there, but a file could be made in its directory. -/
  | vacant (location : Location)
  /-- Nothing is there, and a slash follows the name. -/
  | vacantDirectory

/-- A name that means the directory itself. -/
def isHere (name : String) : Bool :=
  name == "" || name == "."

/-- How many bytes a name may have. -/
def nameLimit : Nat := 255

/-- How many bytes a path may have. -/
def pathLimit : Nat := 4095

/-- Follows names from a directory, through at most so many links. -/
def follow (tree : FileTree) : (links : Nat) → (directory : Location) → List String →
    Except SystemFault Destination
  | _, directory, [] =>
    match tree.node? directory with
    | some node => .ok (.present directory node)
    | none => .error .notFound
  | links, directory, name :: rest =>
    if isHere name then tree.follow links directory rest
    else if name = ".." then tree.follow links directory.dropLast rest
    else if nameLimit < name.utf8ByteSize then .error .nameTooLong
    else
      let location := directory ++ [name]
      match tree.node? location with
      | none =>
        if rest = [] then .ok (.vacant location)
        else if rest.all (· == "") then .ok .vacantDirectory
        else .error .notFound
      | some .directory => tree.follow links location rest
      | some (.link path) =>
        match links with
        | 0 => .error .tooManyLinks
        | links + 1 =>
          let start := if Path.isAbsolute path then [] else directory
          tree.follow links start (Path.names path ++ rest)
      | some node => if rest = [] then .ok (.present location node) else .error .notDirectory
termination_by links _ names => (links, names.length)

/-- How many links a path may go through. -/
def linkLimit : Nat := 40

/-- The directory that a path starts from. -/
def start (tree : FileTree) (path : String) : Location :=
  if Path.isAbsolute path then [] else tree.workingDirectory

/-- Refuses a path that cannot be given to the system. -/
def checkPath (path : String) : Except SystemFault Unit :=
  if path.toList.contains '\x00' then .error .nullInPath
  else if path.isEmpty then .error .notFound
  else if pathLimit < path.utf8ByteSize then .error .nameTooLong
  else .ok ()

/-- Where a path leads. -/
def resolve (tree : FileTree) (path : String) : Except SystemFault Destination := do
  checkPath path
  tree.follow linkLimit (tree.start path) (Path.names path)

/-- The location that a path names where there are no links. -/
def locate (tree : FileTree) (path : String) : Location :=
  (Path.names path).foldl (fun location name =>
    if isHere name then location
    else if name = ".." then location.dropLast
    else location ++ [name]) (tree.start path)

/-- Whether a path leads to a file. -/
def isFile (tree : FileTree) (path : String) : Bool :=
  match tree.resolve path with
  | .ok (.present _ (.file _)) => true
  | _ => false

/-- Whether a path leads to a directory. -/
def isDirectory (tree : FileTree) (path : String) : Bool :=
  match tree.resolve path with
  | .ok (.present _ .directory) => true
  | _ => false

end FileTree

end CatalogPages
