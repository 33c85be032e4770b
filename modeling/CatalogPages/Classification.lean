/-
**Classification.**

Libraries under the categories that they list, each group by name.

* `classify` passes once over the libraries in name order and appends each to the groups that it
  lists; a category that the registry does not have is reported and left out.
-/

import CatalogPages.Catalog
import CatalogPages.Category
import CatalogPages.Traced

namespace CatalogPages

/-- A category and the keys of its libraries, by name. -/
structure CategoryEntry where
  category : Category
  libraryKeys : List String
  deriving DecidableEq, Repr

/-- A catalog by category and by name. -/
structure Classification where
  /-- The categories, in registry order. -/
  categories : List CategoryEntry
  /-- The keys of all libraries, by name. -/
  alphabetic : List String
  deriving DecidableEq, Repr

namespace Classification

/-- The groups collected so far: the keys of libraries under the key of a category. -/
abbrev Groups := List (String × List String)

/-- The libraries of a group; nothing has been collected for most. -/
def Groups.members (groups : Groups) (category : String) : List String :=
  (groups.lookup category).getD []

/-- Adds a library to a group, once. -/
def Groups.add (groups : Groups) (category library : String) : Groups :=
  let members := groups.members category
  if members.contains library then groups
  else Keyed.put category (members ++ [library]) groups

/-- Adds a library to the group of one category that it lists. -/
def place (registry : Registry) (library : String) (groups : Groups) (category : String) :
    Traced Groups :=
  if registry.contains category then return groups.add category library
  else do
    Traced.report (.unknownCategory library category)
    return groups

/-- Adds a library to the groups of all categories that it lists. -/
def placeAll (registry : Registry) (groups : Groups) (library : Library) : Traced Groups :=
  library.category.foldlM (place registry library.key) groups

/-- The entries of the registry's categories. -/
def entries (registry : Registry) (groups : Groups) : List CategoryEntry :=
  registry.categories.map fun category => ⟨category, groups.members category.key⟩

end Classification

/-- Groups a catalog by the categories of a registry. -/
def classify (registry : Registry) (catalog : Catalog Library) : Traced Classification := do
  let libraries := catalog.alphabetic
  let groups ← libraries.foldlM (Classification.placeAll registry) []
  return ⟨Classification.entries registry groups, libraries.map Library.key⟩

end CatalogPages
