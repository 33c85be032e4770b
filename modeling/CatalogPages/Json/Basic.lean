/-
**Documents of values.**

A document is null, a truth value, a number, a text, a list or an object. An object's members stand
in key order, one for each key.
-/

import CatalogPages.Keyed

namespace CatalogPages

/-- A value of a document. Whole numbers are kept apart from others. -/
inductive Json where
  | null
  | bool (value : Bool)
  | integer (value : Int)
  | real (value : Float)
  | string (value : String)
  | array (items : List Json)
  | object (members : List (String × Json))
  deriving Inhabited

namespace Json

/-- An object from members in any order; of a repeated key the last member counts. -/
def ofMembers (members : List (String × Json)) : Json :=
  object (Keyed.ofList members)

/-- The member of an object. -/
def member? (key : String) : Json → Option Json
  | object members => members.lookup key
  | _ => none

/-- A list of texts. -/
def strings (items : List String) : Json :=
  array (items.map string)

/-- A text, or null. -/
def optional : Option String → Json
  | some text => string text
  | none => null

end Json

end CatalogPages
