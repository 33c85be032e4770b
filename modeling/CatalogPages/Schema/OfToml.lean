/-
**Values of a settings file by a schema.**

`Schema.ofToml` decodes a value of a settings file, or fails. A moment counts as an object of one
member; a list may hold more values than a record has fields.
-/

import CatalogPages.Schema
import CatalogPages.Toml.Assembly

namespace CatalogPages

namespace Toml

/-- The name under which a moment's text stands. -/
def momentKey : String := "$__toml_private_datetime"

/-- A table's entries; a moment has one. -/
def Value.entries? : Value → Option (List (String × Value))
  | .table _ entries => some entries
  | .moment written => some [(momentKey, .text written)]
  | _ => none

mutual

/-- A value as a document. A number that is not finite becomes null. -/
def Value.toJson : Value → Json
  | .text value => .string value
  | .integer value => .integer value
  | .real value => if value.isFinite then .real value else .null
  | .bool value => .bool value
  | .moment written => .object [(momentKey, .string written)]
  | .array items => .array (toJsonItems items)
  | .table _ entries => .object (toJsonMembers entries)

/-- The items of a list as documents. -/
def toJsonItems : List Value → List Json
  | [] => []
  | item :: rest => item.toJson :: toJsonItems rest

/-- The entries of a table as members, in key order. -/
def toJsonMembers : List (String × Value) → List (String × Json)
  | [] => []
  | (key, value) :: rest => Keyed.put key value.toJson (toJsonMembers rest)

end

/-- Whether a value holds nothing, as what is given to the name of a choice must. -/
def Value.isEmpty : Value → Bool
  | .array [] | .table _ [] => true
  | _ => false

/-- The choice that a value names: its text, or the first entry of a table, which must be the only
one in braces and must hold nothing. -/
def Value.choice? (choices : List (String × α)) : Value → Option α
  | .text name => choices.lookup name
  | .table inlined ((name, payload) :: more) =>
    if (inlined && !more.isEmpty) || !payload.isEmpty then none else choices.lookup name
  | _ => none

end Toml

mutual

/-- The value that a value of a settings file stands for. -/
def Schema.ofToml : Schema α → Toml.Value → Option α
  | .text, value =>
    match value with
    | .text text => some text
    | _ => none
  | .any, value => some value.toJson
  | .table, value => value.entries?.map Toml.toJsonMembers
  | .converted convert inner, value => (inner.ofToml value).map convert
  | .list item, value =>
    match value with
    | .array items => items.mapM item.ofToml
    | _ => none
  | .optional inner, value => (inner.ofToml value).map some
  | .choice choices, value => value.choice? choices
  | .either _ first second, value =>
    ((first.ofToml value).map .inl).or ((second.ofToml value).map .inr)
  | .pair first second, value =>
    match value with
    | .array (one :: two :: _) => do return (← first.ofToml one, ← second.ofToml two)
    | _ => none
  | .record _ fields build, value =>
    match value with
    | .array items => (fields.ofTomlItems items).map build
    | value => do return build (← fields.ofTomlEntries (← value.entries?))

/-- The fields of a record, each looked up in a table. -/
def Fields.ofTomlEntries : Fields types → List (String × Toml.Value) → Option (Filled types)
  | .done, _ => some ()
  | .field name schema absent rest, entries => do
    let value ← match entries.lookup name with
      | some value => schema.ofToml value
      | none => absent
    return (value, ← rest.ofTomlEntries entries)

/-- The fields of a record, one after another in a list. -/
def Fields.ofTomlItems : Fields types → List Toml.Value → Option (Filled types)
  | .done, _ => some ()
  | .field _ schema absent rest, items => do
    let value ← match items with
      | item :: _ => schema.ofToml item
      | [] => absent
    return (value, ← rest.ofTomlItems items.tail)

end

end CatalogPages
