/-
**Shapes of data.**

A schema says which documents stand for a value of a type, whatever they are written in. A record
is described by its fields: each has a name, a schema, and the value it takes when it is absent
(none for a field that must be there).

* `Slots`: the fields found so far; `Fields.fill` turns them into a record or names what is missing.
-/

import CatalogPages.Json.Flaw

namespace CatalogPages

/-- Values of some types, each of which may be missing. -/
def Slots : List Type → Type
  | [] => Unit
  | α :: types => Option α × Slots types

/-- Values of some types. -/
def Filled : List Type → Type
  | [] => Unit
  | α :: types => α × Filled types

mutual

/-- The documents that stand for values of a type. -/
inductive Schema : Type → Type 1 where
  /-- A text. -/
  | text : Schema String
  /-- Any value. -/
  | any : Schema Json
  /-- An object with any members. -/
  | table : Schema (List (String × Json))
  /-- A value that stands for another. -/
  | converted {α β : Type} (convert : α → β) (value : Schema α) : Schema β
  /-- A list of such values. -/
  | list {α : Type} (item : Schema α) : Schema (List α)
  /-- A value, or null. -/
  | optional {α : Type} (value : Schema α) : Schema (Option α)
  /-- One of some names. -/
  | choice {α : Type} (choices : List (String × α)) : Schema α
  /-- A value of the first kind if it is one, or else of the second. -/
  | either {α β : Type} (name : String) (first : Schema α) (second : Schema β) : Schema (α ⊕ β)
  /-- A list of just two values. -/
  | pair {α β : Type} (first : Schema α) (second : Schema β) : Schema (α × β)
  /-- An object with fields, or the list of their values. -/
  | record {α : Type} {types : List Type} (name : String) (fields : Fields types)
      (build : Filled types → α) : Schema α

/-- The fields of a record, in the order in which they are declared. -/
inductive Fields : List Type → Type 1 where
  | done : Fields []
  | field {α : Type} {types : List Type} (name : String) (value : Schema α) (absent : Option α)
      (rest : Fields types) : Fields (α :: types)

end

/-- No field has been found. -/
def Slots.empty : (types : List Type) → Slots types
  | [] => ()
  | _ :: types => (none, Slots.empty types)

/-- How many fields there are. -/
def Fields.size : Fields types → Nat
  | .done => 0
  | .field _ _ _ rest => rest.size + 1

/-- The record of the fields found, with its absent values; the first field that must be there and
is not is named. -/
def Fields.fill : Fields types → Slots types → Except String (Filled types)
  | .done, () => .ok ()
  | .field name _ absent rest, (slot, slots) =>
    match slot.or absent with
    | some value => (rest.fill slots).map fun values => (value, values)
    | none => .error name

/-- A record as diagnostics name it. -/
def Schema.recordTitle (name : String) : String :=
  "struct " ++ name

/-- A list of a record's values as diagnostics name it. -/
def Fields.listTitle (fields : Fields types) (name : String) : String :=
  Schema.recordTitle name ++ " with " ++ toString fields.size ++
    if fields.size = 1 then " element" else " elements"

end CatalogPages
