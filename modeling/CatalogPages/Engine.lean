/-
**Engines.**

An engine makes a page's text from a template in its own language and the variables of the page.

* `Engine.script`: the engine of scripts, which writes values with entities;
* `PageContext.rules`: what the section markers of a template are exchanged by.
-/

import CatalogPages.Markers.Compiler
import CatalogPages.PageContext
import CatalogPages.Script.Evaluation

namespace CatalogPages

/-- A page's text, by its name, its template and its variables. -/
abbrev Engine := (name template : String) → PageContext → Except Fault String

/-- A library as scripts see it. -/
def Library.toValue (library : Library) : Script.Value :=
  .map (Script.Value.ofMembers library.fields)

/-- Libraries as scripts see them. -/
def librariesValue (libraries : List Library) : Script.Value :=
  .list (libraries.map Library.toValue)

/-- A category with its libraries as scripts see it. -/
def CategoryView.toValue (view : CategoryView) : Script.Value :=
  .map [
    (.ofName "key", .ofName view.category.key),
    (.ofName "title", .ofName view.category.title),
    (.ofName "libraries", librariesValue view.libraries)]

/-- The values of the names that a page starts with. -/
def PageContext.values (context : PageContext) : List (String × Script.Value) :=
  let ofJson (member : String × Json) : String × Script.Value := (member.1, .ofJson member.2)
  Keyed.ofList (context.version.members.map ofJson ++ [
    ("is_develop", .bool context.isDevelop),
    ("unreleased_lib_count", .integer context.unreleasedCount),
    ("unreleased_libs", librariesValue context.unreleased),
    ("categories", .list (context.categories.map CategoryView.toValue)),
    ("libraries", librariesValue context.libraries)] ++ context.globals.map ofJson)

/-- The engine of scripts. -/
def Engine.script : Engine := fun name template context =>
  match Script.render name context.values template.toList with
  | .ok text => .ok (String.ofList text)
  | .error fault =>
    .error ((Fault.of fault.message).within (.of "failed to render page" [("page", name)]))

/-- The flags that a page's sections can hang on, and the encoding. -/
def PageContext.rules (context : PageContext) (charset : Option (String × String)) :
    Markers.Rules where
  flags := [
    ("is_develop", context.isDevelop),
    ("unreleased_lib_count", decide (0 < context.unreleasedCount))]
  charset

end CatalogPages
