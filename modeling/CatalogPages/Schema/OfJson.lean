/-
**Values of a document by a schema.**

`Schema.ofJson` decodes a value that has been read. Members are looked at in key order and list
items in order, and the first mismatch is the answer.
-/

import CatalogPages.Schema

namespace CatalogPages

open Json (Mismatch)

/-- A value of another kind than the one that was asked for. -/
def Json.reject (value : Json) (expected : String) : Except Mismatch α :=
  .error (.wrongType value.found expected)

mutual

/-- The value that a document stands for. -/
def Schema.ofJson : Schema α → Json → Except Mismatch α
  | .text, value =>
    match value with
    | .string text => .ok text
    | other => other.reject "a string"
  | .any, value => .ok value
  | .table, value =>
    match value with
    | .object members => .ok members
    | other => other.reject "a map"
  | .converted convert inner, value => (inner.ofJson value).map convert
  | .list item, value =>
    match value with
    | .array items => items.mapM item.ofJson
    | other => other.reject "a sequence"
  | .optional inner, value =>
    match value with
    | .null => .ok none
    | other => (inner.ofJson other).map some
  | .choice choices, value =>
    match value with
    | .string name =>
      match choices.lookup name with
      | some chosen => .ok chosen
      | none => .error (.unknownChoice name (choices.map Prod.fst))
    | other => other.reject "string or map"
  | .either name first second, value =>
    match first.ofJson value with
    | .ok found => .ok (.inl found)
    | .error _ =>
      match second.ofJson value with
      | .ok found => .ok (.inr found)
      | .error _ => .error (.noAlternative name)
  | .pair first second, value =>
    match value with
    | .array [] => .error (.wrongLength 0 "a tuple of size 2")
    | .array [one] => do
      let _ ← first.ofJson one
      .error (.wrongLength 1 "a tuple of size 2")
    | .array (one :: two :: more) => do
      let one ← first.ofJson one
      let two ← second.ofJson two
      if more.isEmpty then .ok (one, two)
      else .error (.wrongLength (more.length + 2) "fewer elements in array")
    | other => other.reject "a tuple of size 2"
  | .record name fields build, value =>
    match value with
    | .object members => do
      let slots ← members.foldlM (fun slots (key, member) => fields.putJson slots key member)
        (Slots.empty _)
      match fields.fill slots with
      | .ok values => .ok (build values)
      | .error missing => .error (.missingField missing)
    | .array items => do
      let (values, excess) ← fields.ofItems (fields.listTitle name) 0 items
      if excess.isEmpty then .ok (build values)
      else .error (.wrongLength items.length "fewer elements in array")
    | other => other.reject (Schema.recordTitle name)

/-- Sets the field that a key names, if there is one. -/
def Fields.putJson : Fields types → Slots types → String → Json → Except Mismatch (Slots types)
  | .done, slots, _, _ => .ok slots
  | .field name schema _ rest, (slot, slots), key, value =>
    if key = name then do
      let found ← schema.ofJson value
      .ok (some found, slots)
    else (rest.putJson slots key value).map fun slots => (slot, slots)

/-- The record of a list of values, and the values left over. -/
def Fields.ofItems : Fields types → (title : String) → (index : Nat) → List Json →
    Except Mismatch (Filled types × List Json)
  | .done, _, _, items => .ok ((), items)
  | .field _ _ absent rest, title, index, [] =>
    match absent with
    | some value => (rest.ofItems title (index + 1) []).map fun (values, items) =>
      ((value, values), items)
    | none => .error (.wrongLength index title)
  | .field _ schema _ rest, title, index, item :: items => do
    let value ← schema.ofJson item
    (rest.ofItems title (index + 1) items).map fun (values, items) => ((value, values), items)

end

end CatalogPages
