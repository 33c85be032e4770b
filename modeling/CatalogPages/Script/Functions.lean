/-
**Functions of a script.**

What every page can call: `range` counts, `dict` makes a map, `namespace` makes a record whose
fields can be set, and `debug` shows values.
-/

import CatalogPages.Script.Arguments

namespace CatalogPages.Script

/-- The functions by name. -/
def functions : List (String × Value) :=
  [Builtin.range, .dict, .record, .debug].map fun which => (which.name, .function which)

/-- How many numbers a page may count. -/
def rangeLimit : Nat := 100000

/-- The numbers from one to another by steps, without the end. -/
def countFrom (start stop step : Int) : Except ScriptFault Value :=
  let span := if 0 < step then stop - start else start - stop
  let stride := step.natAbs
  let count := (span.toNat + stride - 1) / stride
  if stride = 0 ∨ rangeLimit < count then .error .invalidOperation
  else .ok (.stream ((List.range count).map fun (n : Nat) => .integer (start + n * step)) true)

/-- Counts up to a number, or from one number to another, by steps of one or of another number. -/
def range : Taking Value := do
  let first ← Taking.asWhole (← Taking.next)
  let stop ← (← Taking.optional).mapM Taking.asWhole
  let step ← (← Taking.optional).mapM Taking.asWhole
  Taking.noMore
  match stop with
  | some stop => countFrom first stop (step.getD 1)
  | none => countFrom 0 first (step.getD 1)

/-- The map that another one and values by name make up. -/
def dict : Taking Value := do
  Taking.useNames
  let value ← Taking.optional
  Taking.noMore
  let entries ← match value with
    | none => pure []
    | some value =>
      match value.entries? with
      | some entries => pure entries
      | none => throw .invalidOperation
  let named := (← get).named
  modify fun left => { left with named := [] }
  return .map (named.foldl (fun map (key, value) => Value.put key value map) entries)

/-- The fields of a new record, which have texts for names. -/
def recordFields : Taking (List (Value × Value)) := do
  match ← Taking.optional with
  | none => return []
  | some value =>
    match value.entries? with
    | some entries =>
      if entries.all fun entry => entry.1.text?.isSome then
        return entries.foldl (fun fields (name, value) => Value.put name value fields) []
      else throw .invalidOperation
    | none => throw .invalidOperation

/-- Values over several lines. -/
def shown : List Value → List Char
  | [] => []
  | [value] => value.outline
  | values => (Value.list values).outline

/-- The value of a function other than `namespace`, whose record is made by the run. -/
def callBuiltin (which : Builtin) (arguments : Arguments) : Except ScriptFault Value :=
  match which with
  | .range => taken range arguments
  | .dict => taken dict arguments
  | .record => do return .map (← taken recordFields arguments)
  | .debug => .ok (.ofText (shown arguments.values))

end CatalogPages.Script
