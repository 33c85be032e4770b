/-
**Values of a script.**

The values that expressions in a page have. Besides those that a document can hold there are
undefined values, streams (what a loop can go through and whose items come one by one), maps with
keys of every kind, and values that stand for something of the running script: the progress of a
loop, a routine, a function, and a record whose fields can be set.

* `Value.ofJson`: the value of a document;
* `Value.kind`: kinds in their order.
-/

import CatalogPages.Json.Basic
import CatalogPages.Script.Fault

namespace CatalogPages.Script

/-- The functions that every page can call. -/
inductive Builtin where
  | range
  | dict
  | record
  | debug
  deriving DecidableEq, Repr

def Builtin.name : Builtin → String
  | range => "range"
  | dict => "dict"
  | record => "namespace"
  | debug => "debug"

/-- How far a loop has come. -/
structure Progress where
  /-- The number of the loop, counted over the run. -/
  loop : Nat
  /-- The place of the item, from zero. -/
  index : Nat
  /-- How many items there are, if that is known beforehand. -/
  count : Option Nat
  /-- How many times the loop runs inside itself. -/
  depth : Nat
  deriving DecidableEq, Repr

/-- What can be seen of a routine. -/
structure RoutineHead where
  name : String
  parameters : List String
  /-- Whether the routine calls the block that it is called with. -/
  callsBack : Bool
  deriving DecidableEq, Repr

/-- A value of an expression. -/
inductive Value where
  /-- What a name stands for that has not been given a value. -/
  | undefined
  | none
  | bool (value : Bool)
  | integer (value : Int)
  | real (value : Float)
  /-- A text; a safe one is written without entities. -/
  | text (value : String) (safe : Bool)
  | list (items : List Value)
  /-- Items that come one by one; whether it is known beforehand how many. -/
  | stream (items : List Value) (counted : Bool)
  /-- Values by key. -/
  | map (entries : List (Value × Value))
  /-- A list whose items have names as well. -/
  | tuple (names : List String) (items : List Value)
  | loop (progress : Progress)
  /-- A routine, with its number. -/
  | routine (number : Nat) (head : RoutineHead)
  /-- A record that can be set, with its number and what it holds. -/
  | record (number : Nat) (entries : List (Value × Value))
  | function (which : Builtin)
  deriving Inhabited

namespace Value

/-- A text that is not safe. -/
def ofText (text : List Char) : Value :=
  .text (String.ofList text) false

/-- A text of one character. -/
def ofChar (c : Char) : Value :=
  .ofText [c]

/-- A name as a value. -/
def ofName (name : String) : Value :=
  .text name false

mutual

/-- The value of a document. -/
def ofJson : Json → Value
  | .null => .none
  | .bool value => .bool value
  | .integer value => .integer value
  | .real value => .real value
  | .string value => .text value false
  | .array items => .list (ofItems items)
  | .object members => .map (ofMembers members)

/-- The values of a document's list. -/
def ofItems : List Json → List Value
  | [] => []
  | item :: rest => ofJson item :: ofItems rest

/-- The values of an object's members. -/
def ofMembers : List (String × Json) → List (Value × Value)
  | [] => []
  | (name, value) :: rest => (ofName name, ofJson value) :: ofMembers rest

end

/-- The kinds of values, in their order. -/
inductive Kind where
  | undefined
  | none
  | bool
  | number
  | text
  | sequence
  | map
  | stream
  | plain
  deriving DecidableEq, Repr

/-- The place of a kind among all kinds. -/
def Kind.rank : Kind → Nat
  | undefined => 0
  | none => 1
  | bool => 2
  | number => 3
  | text => 4
  | sequence => 5
  | map => 6
  | stream => 7
  | plain => 8

/-- The kind of a value. -/
def kind : Value → Kind
  | .undefined => .undefined
  | .none => .none
  | .bool _ => .bool
  | .integer _ | .real _ => .number
  | .text .. => .text
  | .list _ | .tuple .. => .sequence
  | .stream .. => .stream
  | .map _ | .loop _ | .routine .. | .record .. => .map
  | .function _ => .plain

/-- The text of a value that is one. -/
def text? : Value → Option String
  | .text value _ => some value
  | _ => Option.none

/-- Whether a value is written without entities. -/
def isSafe : Value → Bool
  | .text _ safe => safe
  | _ => false

end Value

/-- What a loop tells about its progress. -/
def Progress.entries (progress : Progress) : List (Value × Value) :=
  let number (n : Nat) : Value := .integer n
  let ofCount (f : Nat → Value) : Value := (progress.count.map f).getD .undefined
  [ ("index0", number progress.index),
    ("index", number (progress.index + 1)),
    ("length", ofCount number),
    ("revindex", ofCount fun count => number (count - progress.index)),
    ("revindex0", ofCount fun count => number (count - progress.index - 1)),
    ("first", .bool (progress.index == 0)),
    ("last", .bool (progress.count.any (progress.index + 1 == ·))),
    ("depth", number (progress.depth + 1)),
    ("depth0", number progress.depth)].map fun (name, value) => (.ofName name, value)

/-- What can be asked of a routine. -/
def RoutineHead.entries (head : RoutineHead) : List (Value × Value) :=
  [ ("name", .ofName head.name),
    ("arguments", .list (head.parameters.map .ofName)),
    ("caller", .bool head.callsBack)].map fun (name, value) => (.ofName name, value)

/-- The entries of a value that holds values by key. -/
def Value.entries? : Value → Option (List (Value × Value))
  | .map entries | .record _ entries => some entries
  | .loop progress => some progress.entries
  | .routine _ head => some head.entries
  | _ => Option.none

end CatalogPages.Script
