/-
**Metadata files.**

A metadata file holds one object, or a list of them, one for each library. `load` reads those of all
candidate directories; of records with one key the last is kept, and the others are reported.
-/

import CatalogPages.Candidates
import CatalogPages.Json.Reader
import CatalogPages.Schema.OfJson

namespace CatalogPages

namespace FileTree

/-- The document in the file at a path. -/
def readJson (tree : FileTree) (path : String) : Except Fault Json := do
  let text ← tree.readText path
  within (.of "invalid JSON" [("file path", path)]) ((Json.parse text).mapError Fault.of)

/-- The metadata of one entry of a document. -/
def decodeRecord (path : String) (index : Nat) (entry : Json) : Except Fault Metadata :=
  within (.of "invalid library record" [("file path", path), ("index", toString index)])
    ((Metadata.schema.ofJson entry).mapError fun mismatch => .of mismatch.message)

/-- The metadata of the entries from an index on. -/
def decodeRecords (path : String) : (index : Nat) → List Json → Except Fault (List Metadata)
  | _, [] => .ok []
  | index, entry :: rest => do
    let metadata ← decodeRecord path index entry
    return metadata :: (← decodeRecords path (index + 1) rest)

/-- The metadata in the file at a path, in order. -/
def readRecords (tree : FileTree) (path : String) : Except Fault (List Metadata) := do
  match ← tree.readJson path with
  | .array entries => decodeRecords path 0 entries
  | .object members => decodeRecords path 0 [.object members]
  | _ =>
    throw (.of "metadata must be a JSON object or an array of objects" [("file path", path)])

end FileTree

namespace Catalog

/-- Adds metadata under its key, and reports metadata that it takes the place of. -/
def addRecord (catalog : Catalog Metadata) (metadata : Metadata) : Traced (Catalog Metadata) := do
  let (replaced, catalog) := catalog.exchange metadata.key metadata
  match replaced with
  | some previous =>
    Traced.report (.duplicateKey previous.key previous.libraryPath metadata.libraryPath)
  | none => pure ()
  return catalog

end Catalog

namespace Settings

/-- A library's path: its directory without the prefix that directories share, if it has it. -/
def libraryPath (settings : Settings) (directory : String) : String :=
  match Text.after? settings.pathPrefix.toList directory.toList with
  | some rest => String.ofList rest
  | none => directory

/-- Adds the metadata of a candidate directory. -/
def loadDirectory (settings : Settings) (tree : FileTree) (root : String)
    (catalog : Catalog Metadata) (directory : String) : Traced (Catalog Metadata) :=
  let path := Path.join (Path.join root directory) settings.metadataFile
  if tree.isFile path then do
    let records ← Traced.of (tree.readRecords path)
    let libraryPath := settings.libraryPath directory
    records.foldlM (fun catalog metadata => catalog.addRecord { metadata with libraryPath })
      catalog
  else do
    Traced.report (.noMetadata directory)
    return catalog

/-- The metadata of all libraries. -/
def load (settings : Settings) (tree : FileTree) (root : String) :
    Traced (Catalog Metadata) := do
  let candidates ← settings.candidates tree root
  let catalog ← candidates.foldlM (settings.loadDirectory tree root) Catalog.empty
  Traced.report (.loaded catalog.size)
  return catalog

end Settings

end CatalogPages
