/-
**Scopes of a script.**

Names have values in layers: a page's variables below, and a layer for each block with names of its
own and for the item that a running loop is at. A name is looked up from the innermost layer
outwards; an assignment goes to the innermost one.

A run also keeps the routines and records that it has made. Values refer to them by number;
`State.latest` brings what a value shows of records up to date.

* `State.find?`, `State.assign`: the value of a name;
* `Run.within`: something done in a layer of its own.
-/

import CatalogPages.Keyed
import CatalogPages.Script.Expr
import CatalogPages.Script.Functions

namespace CatalogPages.Script

/-- A running loop. -/
structure Cycle where
  progress : Progress
  /-- Whether the name `loop` stands for it. -/
  isNamed : Bool
  /-- The loop's head and body, if it can be run inside itself. -/
  rerun : Option (LoopHead × List Node)

/-- The names of a page, of a block, or of an item that a loop is at. -/
structure Layer where
  names : List (String × Value)
  cycle : Option Cycle := none
  /-- The number of the names that the routines of this layer see. -/
  closure : Option Nat := none

/-- A routine. -/
structure Routine where
  signature : RoutineSignature
  callsBack : Bool
  body : List Node
  /-- The number of the names that it sees. -/
  closure : Nat

/-- What a run keeps. -/
structure State where
  /-- The layers, innermost first. -/
  layers : List Layer
  /-- How many layers there are, those of callers included. -/
  depth : Nat := 1
  /-- Whether values are written with entities. -/
  escapes : Bool := true
  /-- The page's name. -/
  page : String
  /-- The named blocks that can be called. -/
  blocks : List (String × List Node) := []
  routines : List Routine := []
  /-- The names that routines see. -/
  closures : List (List (String × Value)) := []
  /-- The fields of the records. -/
  records : List (List (Value × Value)) := []
  /-- How many loops have been started. -/
  loops : Nat := 0
  /-- What loops have been told last to look for changes in. -/
  changes : List (Nat × List Value) := []

/-- A step of a run. -/
abbrev Run := StateT State (Except ScriptFault)

/-- How many layers there may be. -/
def depthLimit : Nat := 500

/-! ### Records -/

mutual

/-- A value with the fields of its records exchanged. -/
def Value.withFields (fields : Nat → List (Value × Value)) : Value → Value
  | .list items => .list (withFieldsAll fields items)
  | .tuple names items => .tuple names (withFieldsAll fields items)
  | .stream items counted => .stream (withFieldsAll fields items) counted
  | .map entries => .map (withFieldsEntries fields entries)
  | .record number _ => .record number (fields number)
  | value => value

/-- Values with the fields of their records exchanged. -/
def withFieldsAll (fields : Nat → List (Value × Value)) : List Value → List Value
  | [] => []
  | item :: rest => item.withFields fields :: withFieldsAll fields rest

/-- Entries with the fields of their records exchanged. -/
def withFieldsEntries (fields : Nat → List (Value × Value)) :
    List (Value × Value) → List (Value × Value)
  | [] => []
  | (key, value) :: rest => (key, value.withFields fields) :: withFieldsEntries fields rest

end

/-- The fields of a record, with the records in them so many levels deep. -/
def fieldsWithin (records : List (List (Value × Value))) : (levels : Nat) → Nat →
    List (Value × Value)
  | 0, _ => []
  | levels + 1, number =>
    withFieldsEntries (fieldsWithin records levels) (records[number]?.getD [])

namespace State

/-- A value with the records in it as they are now. -/
def latest (state : State) (value : Value) : Value :=
  if state.records.isEmpty then value
  else value.withFields (fieldsWithin state.records state.records.length)

/-! ### Names -/

end State

/-- The value of a name in a layer. -/
def Layer.find? (layer : Layer) (name : String) : Option Value :=
  (layer.names.lookup name).or
    (if name = "loop" then
      (layer.cycle.filter Cycle.isNamed).map fun cycle => .loop cycle.progress
    else none)

/-- All names of a layer. -/
def Layer.visible (layer : Layer) : List (String × Value) :=
  layer.names ++ ((layer.find? "loop").map fun loop => ("loop", loop)).toList

namespace State

/-- The value of a name. The functions of every page are found where nothing else is. -/
def find? (state : State) (name : String) : Option Value :=
  ((state.layers.findSome? fun layer => layer.find? name).or (functions.lookup name)).map
    state.latest

/-- The innermost running loop. -/
def cycle? (state : State) : Option Cycle :=
  state.layers.findSome? Layer.cycle

/-- Changes the innermost layer. -/
def modifyLayer (f : Layer → Layer) (state : State) : State :=
  match state.layers with
  | layer :: outer => { state with layers := f layer :: outer }
  | [] => state

/-- Gives a value to a name in the innermost layer, and to what the routines of that layer see. -/
def assign (state : State) (name : String) (value : Value) : State :=
  let closures := match state.layers.head?.bind Layer.closure with
    | some number => state.closures.modify number fun names => (name, value) :: names
    | none => state.closures
  { state with closures }.modifyLayer fun layer =>
    { layer with names := Keyed.put name value layer.names }

/-- Sets a field of a record. -/
def setField (state : State) (number : Nat) (name : String) (value : Value) : State :=
  { state with records := state.records.modify number (Value.put (.ofName name) value) }

end State

namespace Run

/-- Does something in a layer of its own. -/
def within (layer : Layer) (inner : Run α) : Run α := do
  let state ← get
  if depthLimit < state.depth then throw .invalidOperation
  set { state with layers := layer :: state.layers, depth := state.depth + 1 }
  let result ← inner
  modify fun after => { after with layers := after.layers.tail, depth := state.depth }
  return result

/-- A text that has been written, as a value. -/
def captured (text : List Char) : Run Value := do
  return .text (String.ofList text) (← get).escapes

/-- A new record. -/
def newRecord (fields : List (Value × Value)) : Run Value := do
  let state ← get
  set { state with records := state.records ++ [fields] }
  return .record state.records.length fields

/-- The number of the names that routines of the innermost layer see. -/
def closureHere : Run Nat := do
  let state ← get
  match state.layers.head?.bind Layer.closure with
  | some number => return number
  | none =>
    let number := state.closures.length
    let names := state.layers.flatMap Layer.visible
    set ({ state with closures := state.closures ++ [names] }.modifyLayer fun layer =>
      { layer with closure := some number })
    return number

/-- Whether values differ from those that a loop has been told last. -/
def changed (loop : Nat) (values : List Value) : Run Bool := do
  let state ← get
  let last := state.changes.lookup loop
  set { state with changes := (loop, values) :: state.changes }
  return !last.any (Value.equalItems · values)

/-- The number of a new loop, and how deep it runs inside loops that can be run in themselves. -/
def newLoop : Run (Nat × Nat) := do
  let state ← get
  set { state with loops := state.loops + 1 }
  let depth := match state.cycle?.filter (·.rerun.isSome) with
    | some cycle => cycle.progress.depth + 1
    | none => 0
  return (state.loops, depth)

end Run

end CatalogPages.Script
