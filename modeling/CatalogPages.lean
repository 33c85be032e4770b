import CatalogPages.Main
import CatalogPages.Json.Printer
import CatalogPages.Schema.OfText
import CatalogPages.Proofs.Markers.Denotation
import CatalogPages.Proofs.Markers.Acceptance
import CatalogPages.Proofs.Markers.Compilation
import CatalogPages.Proofs.Markers.Cutting
import CatalogPages.Proofs.Text.ByteOrder
import CatalogPages.Proofs.Loading.Catalog
import CatalogPages.Proofs.Script.Pieces
import CatalogPages.Proofs.Page.Scene
import CatalogPages.Proofs.Script.Parsing
import CatalogPages.Proofs.Page.Pieces
import CatalogPages.Proofs.Page.Nodes
import CatalogPages.Proofs.Page.Values
import CatalogPages.Proofs.Page.Running
import CatalogPages.Proofs.Page.Rendering
import CatalogPages.Proofs.Page.Depth
import CatalogPages.Proofs.Catalog.Order
import CatalogPages.Proofs.Catalog.Classification
import CatalogPages.Proofs.Catalog.Correction
import CatalogPages.Proofs.Page.Context
import CatalogPages.Proofs.FileTree.Overwriting
import CatalogPages.Proofs.Page.Publishing
import CatalogPages.Proofs.Markers.Recompilation
import CatalogPages.Proofs.Catalog.Canonical
import CatalogPages.Proofs.Page.Failing
import CatalogPages.Proofs.Json.Reading
import CatalogPages.Proofs.Json.Decoding
import CatalogPages.Proofs.Catalog.Encoding
import CatalogPages.Proofs.Fault.Display
import CatalogPages.Proofs.Page.Fixups
import CatalogPages.Proofs.Markers.Refusal
import CatalogPages.Proofs.Page.Escaping
import CatalogPages.Proofs.Loading.Candidates
import CatalogPages.Proofs.Loading.Replacement
import CatalogPages.Proofs.Catalog.Addition
import CatalogPages.Proofs.Fault.Chain
import CatalogPages.Proofs.Text.LinesAndWords
import CatalogPages.Proofs.ReleaseVersion
import CatalogPages.Proofs.Catalog.History
import CatalogPages.Proofs.Catalog.Documentation
import CatalogPages.Proofs.Loading.Repetition
import CatalogPages.Proofs.Catalog.Description
import CatalogPages.Proofs.Page.Variables
import CatalogPages.Proofs.Loading.Entries
import CatalogPages.Proofs.Settings.Reading
import CatalogPages.Proofs.Markers.Unclosed
import CatalogPages.Proofs.Text.Bytes
import CatalogPages.Proofs.Markers.Scanning
