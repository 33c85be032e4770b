/-
**Corrections.**

A correction replaces some of what a library says about itself. `normalize` derives every library
and then applies the corrections one after another; a correction of a library that there is not
changes nothing, and is reported.
-/

import CatalogPages.Catalog
import CatalogPages.Traced

namespace CatalogPages

/-- What is to be replaced in one library. -/
structure Correction where
  /-- The key of the library. -/
  key : String
  name : Option String := none
  category : Option (List String) := none
  /-- The link to the documentation. -/
  link : Option String := none
  description : Option String := none
  deriving DecidableEq, Repr

namespace Correction

def schema : Schema Correction :=
  .record "Override"
    (.field "key" .text none <|
      .field "name" (.optional .text) (some none) <|
      .field "category" (.optional (.list .text)) (some none) <|
      .field "link" (.optional .text) (some none) <|
      .field "description" (.optional .text) (some none) <| .done)
    fun (key, name, category, link, description, ()) => { key, name, category, link, description }

/-- A correction as an object of the fields that it replaces. -/
def toJson (correction : Correction) : Json :=
  .ofMembers (List.flatten [
    [("key", .string correction.key)],
    (correction.name.map fun name => ("name", Json.string name)).toList,
    (correction.category.map fun category => ("category", Json.strings category)).toList,
    (correction.link.map fun link => ("link", Json.string link)).toList,
    (correction.description.map fun text => ("description", Json.string text)).toList])

/-- The library with the fields replaced. A new description is cleaned like any other. -/
def apply (correction : Correction) (library : Library) : Library :=
  let description := correction.description.getD library.description
  { library with
    name := correction.name.getD library.name
    category := correction.category.getD library.category
    documentationLink := correction.link.getD library.documentationLink
    description
    cleanDescription :=
      if correction.description.isSome then CatalogPages.cleanDescription description
      else library.cleanDescription }

/-- The corrections of a release that names no others. -/
def standard : List Correction := [
  { key := "numeric/conversion", name := some "Numeric Conversion" },
  { key := "numeric/interval", name := some "Interval" },
  { key := "logic/tribool", category := some ["Miscellaneous"] },
  { key := "compatibility", link := some "compatibility/index.html" },
  { key := "functional/overloaded_function",
    link := some "functional/overloaded_function/index.html" }]

end Correction

namespace Catalog

/-- Applies one correction to the library of its key. -/
def correct (catalog : Catalog Library) (correction : Correction) : Traced (Catalog Library) :=
  if catalog.contains correction.key then do
    Traced.report (.correctionApplied correction.key)
    return catalog.modify correction.key correction.apply
  else do
    Traced.report (.correctionUnknown correction.key)
    return catalog

/-- The libraries that metadata describes, corrected. -/
def normalize (catalog : Catalog Metadata) (corrections : List Correction) :
    Traced (Catalog Library) :=
  corrections.foldlM correct (catalog.map Metadata.normalize)

end Catalog

end CatalogPages
