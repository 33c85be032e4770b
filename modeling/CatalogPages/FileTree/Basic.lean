/-
**File trees.**

A tree holds files, directories and links at locations, which are lists of names from the top. The
top is a directory. A tree also knows the directory that relative paths start from.

* `FileTree.node?`: what is at a location;
* `FileTree.put`, `FileTree.remove`: a location changes, or goes with all that is below it.
-/

namespace CatalogPages

/-- The names that lead from the top of a tree to a place in it. -/
abbrev Location := List String

/-- What a tree has at a location. -/
inductive FileNode where
  | file (bytes : ByteArray)
  | directory
  /-- Stands for what its path leads to. -/
  | link (path : String)
  /-- A device that can be written to but has no room. -/
  | fullDevice

def FileNode.isDirectory : FileNode → Bool
  | directory => true
  | _ => false

/-- A tree of files. -/
structure FileTree where
  nodes : List (Location × FileNode)
  workingDirectory : Location := []

/-- Why the system refuses an operation on a file. -/
inductive SystemFault where
  | notFound
  | notDirectory
  | isDirectory
  | noSpace
  | nameTooLong
  | tooManyLinks
  | notText
  | nullInPath
  deriving DecidableEq, Repr

def SystemFault.message : SystemFault → String
  | notFound => "No such file or directory (os error 2)"
  | notDirectory => "Not a directory (os error 20)"
  | isDirectory => "Is a directory (os error 21)"
  | noSpace => "No space left on device (os error 28)"
  | nameTooLong => "File name too long (os error 36)"
  | tooManyLinks => "Too many levels of symbolic links (os error 40)"
  | notText => "stream did not contain valid UTF-8"
  | nullInPath => "file name contained an unexpected NUL byte"

namespace FileTree

/-- What is at a location. -/
def node? (tree : FileTree) (location : Location) : Option FileNode :=
  if location = [] then some .directory else tree.nodes.lookup location

/-- The node list with a node at a location. -/
def putNode (location : Location) (node : FileNode) :
    List (Location × FileNode) → List (Location × FileNode)
  | [] => [(location, node)]
  | entry :: rest =>
    if entry.1 = location then (location, node) :: rest else entry :: putNode location node rest

/-- Puts a node at a location. -/
def put (tree : FileTree) (location : Location) (node : FileNode) : FileTree :=
  { tree with nodes := putNode location node tree.nodes }

/-- Removes a location and all below it. -/
def remove (tree : FileTree) (location : Location) : FileTree :=
  { tree with nodes := tree.nodes.filter fun entry => !location.isPrefixOf entry.1 }

/-- The locations above one, from the top, the top left out. -/
def ancestors (location : Location) : List Location :=
  (List.range location.length).drop 1 |>.map fun count => location.take count

/-- Makes the directories above a location that there are not. -/
def makeParents (tree : FileTree) (location : Location) : FileTree :=
  (ancestors location).foldl (fun tree parent =>
    if (tree.node? parent).isSome then tree else tree.put parent .directory) tree

/-- The names in a directory, in no particular order. -/
def names (tree : FileTree) (directory : Location) : List String :=
  tree.nodes.filterMap fun (location, _) =>
    if location.dropLast = directory then location.getLast? else none

theorem lookup_putNode (location other : Location) (node : FileNode)
    (nodes : List (Location × FileNode)) :
    (putNode location node nodes).lookup other =
      if other = location then some node else nodes.lookup other := by
  induction nodes with
  | nil =>
    by_cases same : other = location
    · simp [putNode, same]
    · simp [putNode, List.lookup_cons, same, beq_false_of_ne same]
  | cons entry rest ih =>
    obtain ⟨place, held⟩ := entry
    unfold putNode
    split
    · next here =>
      obtain rfl : place = location := here
      by_cases same : other = place
      · simp [same]
      · simp [List.lookup_cons, same, beq_false_of_ne same]
    · next elsewhere =>
      by_cases same : other = place
      · simp [same, show place ≠ location from elsewhere]
      · simp [List.lookup_cons, beq_false_of_ne same, ih]

/-- What is at a location after another has changed. -/
theorem node?_put (tree : FileTree) (location other : Location) (node : FileNode)
    (below : location ≠ []) :
    (tree.put location node).node? other =
      if other = location then some node else tree.node? other := by
  unfold node? put
  by_cases top : other = []
  · simp [top, Ne.symm below]
  · simp [top, lookup_putNode]

end FileTree

end CatalogPages
