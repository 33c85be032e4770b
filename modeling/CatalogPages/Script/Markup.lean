/-
**Values on a page.**

Where values are written with entities, a text that is not safe is escaped, and so is a list or a
map as a whole. A text made from a safe one by joining is safe, and what is joined to it is
escaped first.

* `Value.written`: a value as the engine writes it of itself;
* `Value.onPage`: a value as it is put on a page;
* `Value.escaped`: a text with all entities made, once;
* `Value.concat`, `Value.joined`: values one after another.
-/

import CatalogPages.Script.Contents
import CatalogPages.Script.Written
import CatalogPages.Text.Escape

namespace CatalogPages.Script.Value

/-- A text that is safe. -/
def ofSafe (text : List Char) : Value :=
  .text (String.ofList text) true

/-- A text that is as safe as another value. -/
def ofTextLike (value : Value) (text : List Char) : Value :=
  .text (String.ofList text) value.isSafe

/-- A value as the engine writes it of itself: a safe text as it is, and a text, a list or a map
with all entities. -/
def written (escapes : Bool) (value : Value) : List Char :=
  match value with
  | .text content true => content.toList
  | .undefined | .none | .bool _ | .integer _ | .real _ => value.display
  | _ => if escapes then Text.escapeStrictly value.display else value.display

/-- A value as it is put on a page. A text that is not safe is escaped first, all but `/`, and is
written as a safe one. -/
def onPage (escapes : Bool) (value : Value) : List Char :=
  match value with
  | .text content false =>
    if escapes then (ofSafe (Text.escape content.toList)).written escapes
    else value.written escapes
  | _ => value.written escapes

/-- A value with all entities made, once. -/
def escaped (value : Value) : Value :=
  .ofSafe (value.written true)

/-- A safe text is written as it is. -/
@[simp] theorem written_ofSafe (escapes : Bool) (text : List Char) :
    (ofSafe text).written escapes = text :=
  String.toList_ofList

/-- A text that is not safe is escaped where values are, and only once. -/
theorem onPage_text (escapes : Bool) (content : String) :
    (Value.text content false).onPage escapes =
      if escapes then Text.escape content.toList else content.toList := by
  cases escapes with
  | true => exact written_ofSafe true _
  | false => rfl

/-- Two values one after the other. -/
def concat (escapes : Bool) (left right : Value) : Value :=
  if escapes && (left.isSafe || right.isSafe) then
    .ofSafe (left.onPage escapes ++ right.onPage escapes)
  else .ofText (left.display ++ right.display)

/-- Values with another between them. -/
def joined (escapes : Bool) (items : List Value) (separator : Value) : Value :=
  if escapes && (separator.isSafe || items.any isSafe) then
    .ofSafe (List.intercalate (separator.onPage escapes) (items.map (onPage escapes)))
  else .ofText (List.intercalate separator.display (items.map display))

end CatalogPages.Script.Value
