/-
**Pages.**

* `Settings.render`: every page of a release. All that they hang on is read before any is written.
* `Page.writeAll`: pages take the place of their templates, or are printed.
* `Settings.publish`: both, one after the other.
-/

import CatalogPages.Engine
import CatalogPages.MetadataFile

namespace CatalogPages

/-- A finished page. -/
structure Page where
  /-- The template's path from the release's root, as the settings give it. -/
  name : String
  /-- The template's path. -/
  path : String
  content : String
  deriving DecidableEq, Repr

/-- The ways in which pages are put out. -/
inductive Delivery where
  /-- Each to its template's place. -/
  | inPlace
  /-- To standard output. -/
  | stdout
  deriving DecidableEq, Repr

/-- A way as it is reported. -/
def Delivery.title : Delivery → String
  | inPlace => "InPlace"
  | stdout => "Stdout"

/-- The version that the file at a path declares. -/
def FileTree.readVersion (tree : FileTree) (path base : String) : Except Fault ReleaseVersion := do
  let content ← tree.readText path
  within (.of "invalid version marker file" [("file path", path)])
    (ReleaseVersion.parse content base)

namespace Settings

/-- The settings in the file at a path. -/
def read (tree : FileTree) (path : String) : Except Fault Settings := do
  let text ← tree.readText path
  within (.of "invalid TOML" [("file path", path)]) (decode schema text)

/-- The version of a release. -/
def version (settings : Settings) (tree : FileTree) (root : String) :
    Except Fault ReleaseVersion :=
  tree.readVersion (Path.join root settings.versionFile) settings.releaseNotesBase

/-- The libraries of a release. -/
def catalog (settings : Settings) (tree : FileTree) (root : String) :
    Traced (Catalog Library) := do
  (← settings.load tree root).normalize settings.corrections

/-- The encoding's names, before and after. -/
def encodingNames (settings : Settings) : Option (String × String) :=
  settings.charset.map fun charset => (charset.before, charset.after)

/-- One page, with its variables. -/
def renderPage (settings : Settings) (engine : Engine) (tree : FileTree) (root : String)
    (context : PageContext) (name : String) : Except Fault Page := do
  let path := Path.join root name
  let source ← tree.readText path
  let template ←
    within (.of "invalid page template" [("file path", path)])
      (((context.rules settings.encodingNames).compile source.toList).mapError
        Markers.MarkerFault.toFault)
  let rendered ← engine name (String.ofList template) context
  return ⟨name, path, String.ofList (Fixup.applyAll settings.fixups rendered.toList)⟩

/-- The variables of a release's pages. -/
def context (settings : Settings) (catalog : Catalog Library) (version : ReleaseVersion) :
    Traced PageContext := do
  let classification ← classify settings.categories catalog
  let context := PageContext.ofCatalog catalog classification version settings.globals
  { context with isDevelop := settings.release.isDevelop }.withUnreleased settings.unreleased

/-- All pages of a release. -/
def render (settings : Settings) (engine : Engine) (tree : FileTree) (root : String) :
    Traced (List Page) := do
  let version ← Traced.of (settings.version tree root)
  let catalog ← settings.catalog tree root
  let context ← settings.context catalog version
  let pages ← Traced.of (settings.pages.mapM (settings.renderPage engine tree root context))
  Traced.report (.rendered version.version catalog.size pages.length)
  return pages

end Settings

/-- What has come of a run: the tree, what has been printed, and the result of the work. -/
structure Outcome where
  tree : FileTree
  printed : String
  work : Traced Unit

/-- The event that a page has been put out. -/
def Page.wrote (page : Page) (delivery : Delivery) : Event :=
  .wrote page.name page.content.utf8ByteSize delivery.title

/-- Puts pages out in order. The first page that cannot be written ends the work. -/
def Page.writeAll (delivery : Delivery) (tree : FileTree) : List Page → Outcome
  | [] => ⟨tree, "", pure ()⟩
  | page :: rest =>
    match delivery with
    | .stdout =>
      let later := writeAll delivery tree rest
      { later with
        printed := page.content ++ later.printed
        work := do
          Traced.report (page.wrote delivery)
          later.work }
    | .inPlace =>
      match tree.writeText page.path page.content with
      | .ok tree =>
        let later := writeAll delivery tree rest
        { later with
          work := do
            Traced.report (page.wrote delivery)
            later.work }
      | .error fault => ⟨tree, "", Traced.fail fault⟩

/-- Renders all pages of a release, and then puts them out. -/
def Settings.publish (settings : Settings) (engine : Engine) (delivery : Delivery)
    (tree : FileTree) (root : String) : Outcome :=
  let rendering := settings.render engine tree root
  match rendering.result with
  | .ok pages =>
    let writing := Page.writeAll delivery tree pages
    { writing with work := ⟨rendering.events ++ writing.work.events, writing.work.result⟩ }
  | .error fault => ⟨tree, "", ⟨rendering.events, .error fault⟩⟩

end CatalogPages
