/-
**Candidate directories.**

The directories that may hold a library: those that the settings include, and then those that a scan
of the libraries' directory finds, in name order, without those that are to be left out.
-/

import CatalogPages.FileTree.Access
import CatalogPages.Settings
import CatalogPages.Traced

namespace CatalogPages

/-- An entry of the libraries' directory: whether it leads to a directory, or why that cannot be
told. -/
structure ScanEntry where
  name : String
  isDirectory : Except SystemFault Bool

/-- What a directory holds, in no particular order. Links are followed. -/
def FileTree.listing (tree : FileTree) (directory : String) : List ScanEntry :=
  match tree.resolve directory with
  | .ok (.present location .directory) =>
    (tree.names location).map fun name =>
      { name
        isDirectory :=
          (tree.openNode (Path.join directory name)).map FileNode.isDirectory }
  | _ => []

/-- A listing in name order. -/
def sortByName (listing : List ScanEntry) : List ScanEntry :=
  listing.mergeSort fun first second => decide (first.name ≤ second.name)

/-- The names of the directories in a listing. -/
def directoryNames (listing : List ScanEntry) : List String :=
  listing.filterMap fun entry =>
    match entry.isDirectory with
    | .ok true => some entry.name
    | _ => none

/-- The fault of an entry that cannot be read. -/
def scanFault (directory : String) (name : String) (fault : SystemFault) : Fault :=
  let path := Path.join directory name
  Fault.within
    ⟨.withSources ("IO error for operation on " ++ path ++ ": " ++ fault.message) [fault.message],
      []⟩
    (.of "failed to scan libraries directory" [("directory", directory)])

namespace Settings

/-- Adds a directory that the scan has found to the candidates. -/
def addCandidate (settings : Settings) (candidates : List String) (name : String) :
    Traced (List String) :=
  let directory := settings.libsDir ++ "/" ++ name
  if settings.skip.contains directory then do
    Traced.report (.skippedDirectory directory)
    return candidates
  else if candidates.contains directory then return candidates
  else return candidates ++ [directory]

/-- The candidates, from the listing of the libraries' directory. Entries that cannot be read come
last. -/
def candidatesOf (settings : Settings) (libs : String) (listing : List ScanEntry) :
    Traced (List String) := do
  let entries := sortByName listing
  let candidates ← (directoryNames entries).foldlM settings.addCandidate settings.include_
  entries.forM fun entry =>
    match entry.isDirectory with
    | .ok _ => pure ()
    | .error fault => Traced.fail (scanFault libs entry.name fault)
  return candidates

/-- The directories that may hold a library, as paths from the release's root. -/
def candidates (settings : Settings) (tree : FileTree) (root : String) : Traced (List String) :=
  let libs := Path.join root settings.libsDir
  if tree.isDirectory libs then settings.candidatesOf libs (tree.listing libs)
  else Traced.fail (.of "libraries directory not found" [("directory", libs)])

end Settings

end CatalogPages
