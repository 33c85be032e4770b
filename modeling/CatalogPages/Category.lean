/-
**Categories.**

A registry lists the categories that pages are grouped by, in the order in which they are shown. A
library names categories by their keys.
-/

import CatalogPages.Schema

namespace CatalogPages

/-- A group of libraries. -/
structure Category where
  /-- The key by which libraries name the category. -/
  key : String
  /-- The title that is shown. -/
  title : String
  deriving DecidableEq, Repr

/-- The categories of a release, in order. -/
structure Registry where
  categories : List Category
  deriving DecidableEq, Repr

namespace Category

def schema : Schema Category :=
  .record "Category" (.field "key" .text none <| .field "title" .text none <| .done)
    fun (key, title, ()) => ⟨key, title⟩

def toJson (category : Category) : Json :=
  .ofMembers [("key", .string category.key), ("title", .string category.title)]

end Category

namespace Registry

/-- A registry of keys and titles. -/
def ofPairs (pairs : List (String × String)) : Registry :=
  ⟨pairs.map fun (key, title) => ⟨key, title⟩⟩

/-- The first category of a key. -/
def find? (registry : Registry) (key : String) : Option Category :=
  registry.categories.find? fun category => category.key == key

/-- Whether some category has the key. -/
def contains (registry : Registry) (key : String) : Bool :=
  (registry.find? key).isSome

/-- A registry is written as the list of its categories. -/
def schema : Schema Registry :=
  .converted Registry.mk (.list Category.schema)

def toJson (registry : Registry) : Json :=
  .array (registry.categories.map Category.toJson)

/-- The categories of a release that names no others. -/
def standard : Registry := ofPairs [
  ("Algorithms", "Algorithms"),
  ("Concurrent", "Concurrent Programming"),
  ("Containers", "Containers"),
  ("Correctness", "Correctness and testing"),
  ("Data", "Data structures"),
  ("Domain", "Domain Specific"),
  ("Emulation", "Language Features Emulation"),
  ("Function-objects", "Function objects and higher-order programming"),
  ("Generic", "Generic Programming"),
  ("Image-processing", "Image processing"),
  ("IO", "Input/Output"),
  ("Inter-language", "Inter-language support"),
  ("Iterators", "Iterators"),
  ("Math", "Math and numerics"),
  ("Memory", "Memory"),
  ("Metaprogramming", "Template Metaprogramming"),
  ("Miscellaneous", "Miscellaneous"),
  ("Parsing", "Parsing"),
  ("Patterns", "Patterns and Idioms"),
  ("Preprocessor", "Preprocessor Metaprogramming"),
  ("Programming", "Programming Interfaces"),
  ("State", "State Machines"),
  ("String", "String and text processing"),
  ("System", "System"),
  ("Workarounds", "Broken compiler workarounds")]

/-- A key is in the registry when one of its categories has it. -/
theorem contains_iff (registry : Registry) (key : String) :
    registry.contains key = true ↔ ∃ category ∈ registry.categories, category.key = key := by
  simp [contains, find?, List.find?_isSome]

end Registry

end CatalogPages
