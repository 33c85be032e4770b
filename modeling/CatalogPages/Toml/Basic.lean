/-
**Values of a settings file.**

The values that a settings file holds. The entries of a table stand in the order in which the file
gives them, with each key once.
-/

namespace CatalogPages.Toml

/-- A value of a settings file. -/
inductive Value where
  | text (value : String)
  | integer (value : Int)
  | real (value : Float)
  | bool (value : Bool)
  /-- A date, a time, or both, as normalized text. -/
  | moment (text : String)
  | array (items : List Value)
  /-- A table; `inlined` if it stands in braces. -/
  | table (inlined : Bool) (entries : List (String × Value))
  deriving Inhabited

end CatalogPages.Toml
