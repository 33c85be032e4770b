/-
**Authors.**

The authors of a library are one text that is ready to be shown, or a list of names.

* `Authors.prose`: the names as prose, `A, B and C`.
-/

import CatalogPages.Schema

namespace CatalogPages

/-- Who wrote a library. -/
inductive Authors where
  /-- A text that is shown as it is. -/
  | single (text : String)
  /-- Names, in order. -/
  | many (names : List String)
  deriving DecidableEq, Repr

namespace Authors

/-- Nobody is named. -/
def nobody : Authors := many []

/-- Names with commas between them, and `and` before the last. -/
def enumerate : List String → String
  | [] => ""
  | [only] => only
  | first :: rest =>
    ", ".intercalate (first :: rest).dropLast ++ " and " ++ rest.getLastD ""

/-- The authors as prose. -/
def prose : Authors → String
  | single text => text
  | many names => enumerate names

/-- A text stands for itself, and a list of texts for names. -/
def schema : Schema Authors :=
  .converted (Sum.elim single many) (.either "Authors" .text (.list .text))

def toJson : Authors → Json
  | single text => .string text
  | many names => .strings names

end Authors

end CatalogPages
