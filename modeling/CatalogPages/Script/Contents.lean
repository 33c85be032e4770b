/-
**What values hold.**

* `Value.items`: what a loop goes through: the items of a list, the characters of a text, the keys
  of a map;
* `Value.member`, `Value.item`: what a value holds under a name, or under a key or at a place;
* `Value.slice`: the items between two places;
* `Value.path`: what is reached by names and places with periods between them.
-/

import CatalogPages.Decimal.Reading
import CatalogPages.Script.Order

namespace CatalogPages.Script.Value

/-- The values that a loop goes through, if it can. -/
def items? : Value → Option (List Value)
  | .undefined | .none => some []
  | .text value _ => some (value.toList.map ofChar)
  | .list items | .tuple _ items | .stream items _ => some items
  | value => value.entries?.map fun entries => entries.map (·.1)

/-- The values that a loop goes through. -/
def items (value : Value) : Except ScriptFault (List Value) :=
  match value.items? with
  | some items => .ok items
  | Option.none => .error .invalidOperation

/-- Whether it is known beforehand how many items a value has. -/
def isCounted : Value → Bool
  | .stream _ counted => counted
  | _ => true

/-- How many parts a value has, if that is known. -/
def count? : Value → Option Nat
  | .text value _ => some value.length
  | .list items | .tuple _ items => some items.length
  | .stream items counted => if counted then some items.length else Option.none
  | value => value.entries?.map List.length

/-- Whether a condition with the value holds. -/
def isTrue : Value → Bool
  | .undefined | .none => false
  | .bool value => value
  | .integer value => value != 0
  | .real value => value != 0
  | .text value _ => !value.isEmpty
  | value => value.count? != some 0

/-- Whether a whole number has 64 bits. -/
def fitsPlace (n : Int) : Bool :=
  -Int.pow 2 63 ≤ n && n < Int.pow 2 63

/-- A value as a whole number. -/
def integer? (value : Value) : Option Int :=
  match value.number? with
  | some (.integer n) => if fitsInteger n then some n else Option.none
  | some (.real x) => if x.floor == x then (Number.wholePart? x).filter fitsPlace else Option.none
  | Option.none => Option.none

/-- A value as a whole number of 64 bits. -/
def whole? (value : Value) : Option Int :=
  value.integer?.filter fitsPlace

/-- A place of a list of some length, counted from its end if it is negative. -/
def place? (length : Nat) (place : Int) : Option Nat :=
  if 0 ≤ place then some place.toNat
  else if -place ≤ length then some (length + place).toNat
  else Option.none

/-- What is at a place of a list. -/
def at? (items : List α) (index : Value) : Option α := do
  items[← place? items.length (← index.whole?)]?

/-- What a value holds under a name, if anything. -/
def member? (value : Value) (name : String) : Option Value :=
  match value with
  | .tuple names items => (names.zip items).lookup name
  | value => value.entries?.bind (lookup (.ofName name))

/-- What a value holds under a name. What has no value has no members to look for. -/
def member (value : Value) (name : String) : Except ScriptFault Value :=
  match value with
  | .undefined => .error .undefinedValue
  | value => .ok ((value.member? name).getD .undefined)

/-- What a value holds under a key or at a place, if anything. -/
def item? (value index : Value) : Option Value :=
  match value with
  | .text value safe => (at? value.toList index).map fun c => .text (String.singleton c) safe
  | .list items | .stream items true => at? items index
  | .stream items false => if index.whole?.any (0 ≤ ·) then at? items index else Option.none
  | .tuple _ items =>
    match index with
    | .text name _ => value.member? name
    | index => at? items index
  | value => value.entries?.bind (lookup index)

/-- What a value holds under a key or at a place. -/
def item (value index : Value) : Except ScriptFault Value :=
  match value with
  | .undefined => .error .undefinedValue
  | value => .ok ((value.item? index).getD .undefined)

/-! ### Slices -/

/-- A bound of a slice, kept between two limits; a negative one counts from the end. -/
def clampPlace (length : Nat) (least greatest place : Int) : Int :=
  let place := if place < 0 then place + length else place
  max least (min greatest place)

/-- The places of a slice that steps forward or backward. -/
def slicePlaces (length : Nat) (start stop : Option Int) (step : Int) : List Nat :=
  let (least, greatest) : Int × Int := if 0 < step then (0, length) else (-1, length - 1)
  let first := (start.map (clampPlace length least greatest)).getD
    (if 0 < step then least else greatest)
  let last := (stop.map (clampPlace length least greatest)).getD
    (if 0 < step then greatest else least)
  let span := if 0 < step then last - first else first - last
  let stride := step.natAbs
  (List.range ((span.toNat + stride - 1) / stride)).map fun (n : Nat) =>
    (first + n * step).toNat

/-- A bound of a slice, which may be left out. -/
def bound : Value → Except ScriptFault (Option Int)
  | .none => .ok Option.none
  | value =>
    match value.whole? with
    | some n => .ok (some n)
    | Option.none => .error .invalidOperation

/-- The items of a list or the characters of a text between two places, by steps. -/
def slice (value start stop step : Value) : Except ScriptFault Value := do
  let start ← start.bound
  let stop ← stop.bound
  let step := (← step.bound).getD 1
  if step = 0 then throw .invalidOperation
  let chosen {α : Type} (items : List α) : List α :=
    let items := items.toArray
    (slicePlaces items.size start stop step).filterMap fun place => items[place]?
  match value with
  | .undefined | .none => return .list []
  | .text value safe => return .text (String.ofList (chosen value.toList)) safe
  | .list items | .tuple _ items => return .stream (chosen items) true
  | .stream items counted => return .stream (chosen items) counted
  | _ => throw .invalidOperation

/-! ### Paths -/

/-- A part of a path: the place of an item, or a name. -/
def step (value : Value) (part : List Char) : Except ScriptFault Value :=
  match part, Decimal.readInteger? part with
  | '-' :: _, _ | _, Option.none => value.member (String.ofList part)
  | _, some place => value.item (.integer place)

/-- What is reached from a value by a path. -/
def path (value : Value) (path : String) : Except ScriptFault Value :=
  (path.toList.splitOn '.').foldlM step value

/-- What is reached from a value by a path, or another value if nothing is there. -/
def pathOr (value default : Value) (path : String) : Value :=
  match value.path path with
  | .ok .undefined | .error _ => default
  | .ok found => found

end CatalogPages.Script.Value
