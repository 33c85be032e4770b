/-
**Libraries.**

`Metadata` is what a library says about itself; `Library` adds what pages show: a name, a link to
the documentation, a description that ends without its period, and the authors as prose.

* `documentationLink`: an absent documentation is the index of the library's directory, and one that
  ends in `/` is the index of that directory;
* `cleanDescription`: one final period goes, with the white space around it.
-/

import CatalogPages.Authors
import CatalogPages.Text.Blank

namespace CatalogPages

/-- What a metadata file says about a library, and where the library was found. -/
structure Metadata where
  key : String
  name : Option String := none
  category : List String := []
  authors : Authors := .nobody
  description : String := ""
  documentation : Option String := none
  /-- The library's directory, without the prefix that all directories share. -/
  libraryPath : String := ""
  deriving DecidableEq, Repr

/-- A library as pages show it. -/
structure Library where
  key : String
  name : String
  category : List String
  authors : Authors
  description : String
  documentation : Option String
  libraryPath : String
  /-- The link to the documentation, from the directory of all libraries. -/
  documentationLink : String
  /-- The description without its final period. -/
  cleanDescription : String
  /-- The authors as prose. -/
  authorsProse : String
  deriving DecidableEq, Repr

/-- The link to a library's documentation. -/
def documentationLink (libraryPath : String) : Option String → String
  | none => libraryPath ++ "/index.html"
  | some documentation =>
    if documentation.toList.getLast? = some '/' then
      libraryPath ++ "/" ++ documentation ++ "index.html"
    else libraryPath ++ "/" ++ documentation

/-- A description without one final period and the white space around it. Without such a period it
is kept as it is. -/
def cleanDescription (description : String) : String :=
  match (Text.trimEnd description.toList).reverse with
  | '.' :: backwards => String.ofList (Text.trimEnd backwards.reverse)
  | _ => description

namespace Metadata

/-- The fields of a metadata object. -/
def schema : Schema Metadata :=
  .record "RawRecord"
    (.field "key" .text none <|
      .field "name" (.optional .text) (some none) <|
      .field "category" (.list .text) (some []) <|
      .field "authors" Authors.schema (some .nobody) <|
      .field "description" .text (some "") <|
      .field "documentation" (.optional .text) (some none) <| .done)
    fun (key, name, category, authors, description, documentation, ()) =>
      { key, name, category, authors, description, documentation }

/-- The library that metadata describes. -/
def normalize (metadata : Metadata) : Library where
  key := metadata.key
  name := metadata.name.getD metadata.key
  category := metadata.category
  authors := metadata.authors
  description := metadata.description
  documentation := metadata.documentation
  libraryPath := metadata.libraryPath
  documentationLink := CatalogPages.documentationLink metadata.libraryPath metadata.documentation
  cleanDescription := CatalogPages.cleanDescription metadata.description
  authorsProse := metadata.authors.prose

def toJson (metadata : Metadata) : Json :=
  .ofMembers [
    ("key", .string metadata.key),
    ("name", .optional metadata.name),
    ("category", .strings metadata.category),
    ("authors", metadata.authors.toJson),
    ("description", .string metadata.description),
    ("documentation", .optional metadata.documentation),
    ("library_path", .string metadata.libraryPath)]

end Metadata

namespace Library

/-- Whether a library lists the category of a key. -/
def inCategory (library : Library) (key : String) : Bool :=
  library.category.contains key

/-- The metadata that says what the library says, its name included. -/
def toMetadata (library : Library) : Metadata where
  key := library.key
  name := some library.name
  category := library.category
  authors := library.authors
  description := library.description
  documentation := library.documentation
  libraryPath := library.libraryPath

/-- The fields of a library by name, in the order in which pages show them. -/
def fields (library : Library) : List (String × Json) := [
  ("key", .string library.key),
  ("name", .string library.name),
  ("category", .strings library.category),
  ("authors", library.authors.toJson),
  ("description", .string library.description),
  ("documentation", .optional library.documentation),
  ("library_path", .string library.libraryPath),
  ("documentation_link", .string library.documentationLink),
  ("description_clean", .string library.cleanDescription),
  ("authors_formatted", .string library.authorsProse)]

def toJson (library : Library) : Json :=
  .ofMembers library.fields

end Library

end CatalogPages
