/-
**What pages can name.**

The variables of a page: the version, the libraries by name and by category, what is new, and
variables that the settings add. One of those that has the name of another takes its place.
-/

import CatalogPages.Classification
import CatalogPages.ReleaseVersion

namespace CatalogPages

/-- A category with its libraries. -/
structure CategoryView where
  category : Category
  libraries : List Library
  deriving DecidableEq, Repr

/-- The variables that every page is rendered with. -/
structure PageContext where
  version : ReleaseVersion
  isDevelop : Bool := false
  /-- The libraries that are new in this release, by name. -/
  unreleased : List Library := []
  /-- The categories, in registry order. -/
  categories : List CategoryView
  /-- All libraries, by name. -/
  libraries : List Library
  /-- Further variables. -/
  globals : List (String × Json)

namespace PageContext

/-- How many libraries are new. -/
def unreleasedCount (context : PageContext) : Nat :=
  context.unreleased.length

/-- The variables for a classified catalog. -/
def ofCatalog (catalog : Catalog Library) (classification : Classification)
    (version : ReleaseVersion) (globals : List (String × Json)) : PageContext where
  version
  categories := classification.categories.map fun entry =>
    ⟨entry.category, entry.libraryKeys.filterMap catalog.get?⟩
  libraries := classification.alphabetic.filterMap catalog.get?
  globals

/-- Reports the keys that name no library of a list. -/
def reportUnknown (libraries : List Library) (keys : List String) : Traced Unit :=
  keys.forM fun key => do
    if !(libraries.any fun library => library.key == key) then
      Traced.report (.unreleasedUnknown key)

/-- The variables with the libraries of some keys marked as new. -/
def withUnreleased (context : PageContext) (keys : List String) : Traced PageContext := do
  let unreleased := context.libraries.filter fun library => keys.contains library.key
  reportUnknown unreleased keys
  return { context with unreleased }

def CategoryView.toJson (view : CategoryView) : Json :=
  .ofMembers [
    ("key", .string view.category.key),
    ("title", .string view.category.title),
    ("libraries", .array (view.libraries.map Library.toJson))]

/-- The variables that are there whatever the settings add. -/
def builtIn (context : PageContext) : List (String × Json) :=
  context.version.members ++ [
    ("is_develop", .bool context.isDevelop),
    ("unreleased_lib_count", .integer context.unreleasedCount),
    ("unreleased_libs", .array (context.unreleased.map Library.toJson)),
    ("categories", .array (context.categories.map CategoryView.toJson)),
    ("libraries", .array (context.libraries.map Library.toJson))]

/-- The variables by name. -/
def members (context : PageContext) : List (String × Json) :=
  Keyed.ofList (context.builtIn ++ context.globals)

def toJson (context : PageContext) : Json :=
  .object context.members

end PageContext

end CatalogPages
