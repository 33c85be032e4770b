/-
**Values of a text by a schema.**

`Schema.read` decodes while it reads, so that what it finds wrong has a place in the text. Members
come in the order of the text, and a field must not come twice; what no field asks for is passed
over.
-/

import CatalogPages.Json.Reader
import CatalogPages.Schema.OfJson

namespace CatalogPages

open Json

/-- Names the value that comes next, which is not of the kind that was asked for. -/
def rejectNext (expected : String) : Reader α :=
  placed do
    match ← scalar? with
    | some value => failMismatch (.wrongType value.found expected)
    | none =>
      failMismatch (.wrongType (if (← peek) = some '[' then .sequence else .map) expected)

/-- A text, where `expected` is asked for. -/
def readText (expected : String) : Reader String := do
  if (← gap) = some '"' then
    pass 1
    textAfterQuote
  else rejectNext expected

/-- What stands between square brackets. -/
def readList (depth : Nat) (expected : String) (inside : Reader α) : Reader α := do
  if (← gap) = some '[' then deeper depth (enclosed inside closeList) else rejectNext expected

/-- What stands between curly brackets. -/
def readObject (depth : Nat) (expected : String) (inside : Reader α) : Reader α := do
  if (← gap) = some '\x7b' then deeper depth (enclosed inside closeObject) else rejectNext expected

/-- A value, or null. -/
def readOptional (inner : Reader α) : Reader (Option α) := do
  if (← gap) = some 'n' then
    pass 1
    letters ['u', 'l', 'l']
    return none
  else some <$> inner

/-- The choice of a name that has just been read. -/
def chosen (choices : List (String × α)) (name : String) : Reader α :=
  match choices.lookup name with
  | some choice => return choice
  | none => placed (failMismatch (.unknownChoice name (choices.map Prod.fst)))

/-- One of some names: a text, or an object that gives null to it. -/
def readChoice (depth : Nat) (choices : List (String × α)) : Reader α := do
  match ← gap with
  | none => failNext .unfinishedValue
  | some '"' => chosen choices (← readText "")
  | some '\x7b' => deeper depth do
    let choice ← chosen choices (← readText "variant identifier")
    colon
    if (← gap) = some 'n' then
      pass 1
      letters ['u', 'l', 'l']
    else rejectNext "unit"
    match ← gap with
    | some '\x7d' => pass 1; return choice
    | some _ => failHere .expectedValue
    | none => failHere .unfinishedObject
  | some _ => failNext .expectedValue

/-- The item of an index. Where the list has ended it is the absent value, if there is one. -/
def readItem (index : Nat) (title : String) (absent : Option α) (item : Reader α) : Reader α := do
  if ← nextItem (index = 0) then item
  else
    match absent with
    | some value => return value
    | none => failMismatch (.wrongLength index title)

mutual

/-- Reads the value that comes next, with so many levels left. -/
def Schema.read : Schema α → (depth : Nat) → Reader α
  | .text, _ => readText "a string"
  | .any, depth => value depth
  | .table, depth =>
    readObject depth "a map" (members (value.member (value (depth - 1))) [])
  | .converted convert inner, depth => convert <$> inner.read depth
  | .list item, depth => readList depth "a sequence" (items (item.read (depth - 1)))
  | .optional inner, depth => readOptional (inner.read depth)
  | .choice choices, depth => readChoice depth choices
  | .either name first second, depth => do
    match (Schema.either name first second).ofJson (← value depth) with
    | .ok found => return found
    | .error mismatch => failMismatch mismatch
  | .pair first second, depth =>
    readList depth "a tuple of size 2" do
      let one ← readItem 0 "a tuple of size 2" none (first.read (depth - 1))
      let two ← readItem 1 "a tuple of size 2" none (second.read (depth - 1))
      return (one, two)
  | .record name fields build, depth => do
    if (← gap) = some '[' then
      readList depth (Schema.recordTitle name)
        (build <$> fields.readItems (depth - 1) (fields.listTitle name) 0)
    else
      readObject depth (Schema.recordTitle name) do
        let slots ← members (fields.readMember (depth - 1)) (Slots.empty _)
        match fields.fill slots with
        | .ok values => return build values
        | .error missing => failMismatch (.missingField missing)

/-- Reads the field that a key names, or passes over its value. -/
def Fields.readMember : Fields types → (depth : Nat) → (key : String) → Slots types →
    Reader (Slots types)
  | .done, _, _, slots => do
    colon
    skipValue
    return slots
  | .field name schema _ rest, depth, key, (slot, slots) => do
    if key = name then
      if slot.isSome then failMismatch (.duplicateField name)
      colon
      return (some (← schema.read depth), slots)
    else return (slot, ← rest.readMember depth key slots)

/-- Reads the fields as a list. -/
def Fields.readItems : Fields types → (depth : Nat) → (title : String) → (index : Nat) →
    Reader (Filled types)
  | .done, _, _, _ => return ()
  | .field _ schema absent rest, depth, title, index => do
    let value ← readItem index title absent (schema.read depth)
    return (value, ← rest.readItems depth title (index + 1))

end

/-- The value that a whole text stands for. -/
def Schema.parse (schema : Schema α) (text : String) : Except String α :=
  document (schema.read depthLimit) text

end CatalogPages
