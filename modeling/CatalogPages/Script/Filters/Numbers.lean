/-
**Filters that make numbers.**

Numbers are rounded and read, and the numbers of a list added up.
-/

import CatalogPages.Decimal.Reading
import CatalogPages.Script.Arithmetic
import CatalogPages.Script.Filters.Texts

namespace CatalogPages.Script

namespace Filter

def absolute : Filter := fun _ value =>
  match value with
  | .integer n => return .integer n.natAbs
  | .real x => return .real x.abs
  | _ => throw .invalidOperation

/-- A power by repeated squaring, so many times at most. -/
def powerSteps : (steps : Nat) → (base result : Float) → (exponent : Nat) → Float
  | 0, _, result, _ => result
  | steps + 1, base, result, exponent =>
    let result := if exponent % 2 = 1 then result * base else result
    if exponent / 2 = 0 then result else powerSteps steps (base * base) result (exponent / 2)

/-- A power of ten, rounded at each step. -/
def powerOfTen (exponent : Int) : Float :=
  let power := powerSteps 64 10 1 exponent.natAbs
  if exponent < 0 then 1 / power else power

/-- A number rounded to so many digits after the point; a half goes away from zero. -/
def roundTo (places : Int) (x : Float) : Float :=
  let scale := powerOfTen places
  (scale * x).round / scale

def round : Filter := fun _ value => do
  let places := (← (← Taking.optional).mapM Taking.asWhole).getD 0
  if places < -Int.pow 2 31 ∨ Int.pow 2 31 ≤ places then throw .invalidOperation
  match value with
  | .integer n => return .integer n
  | .real x => return .real (roundTo places x)
  | _ => throw .invalidOperation

/-- A number without its fraction, or the nearest whole number of 128 bits; what is no number counts
as zero. -/
def wholeOf (x : Float) : Int :=
  let greatest : Int := Int.pow 2 127 - 1
  match Number.wholePart? x with
  | some n => max (-greatest - 1) (min greatest n)
  | none => if x > 0 then greatest else if x < 0 then -greatest - 1 else 0

/-- The whole number that a text gives. -/
def readWhole (text : List Char) : Taking Value :=
  match (Decimal.readInteger? text).filter fitsInteger, Decimal.readFloat? text with
  | some n, _ => return .integer n
  | none, some x => return .integer (wholeOf x)
  | none, none => throw .invalidOperation

def integer : Filter := fun _ value =>
  match value with
  | .undefined | .none => return .integer 0
  | .bool value => return .integer (if value then 1 else 0)
  | .integer n => return .integer n
  | .real x => return .integer (wholeOf x)
  | .text text _ => readWhole text.toList
  | _ => throw .invalidOperation

def real : Filter := fun _ value =>
  match value with
  | .undefined | .none => return .real 0
  | .text text _ =>
    match Decimal.readFloat? text.toList with
    | some x => return .real x
    | none => throw .invalidOperation
  | value =>
    match value.number? with
    | some number => return .real number.toReal
    | none => throw .invalidOperation

def truth : Filter := fun _ value => return .bool value.isTrue

/-- Adds a number; what has no value adds nothing. -/
def addTo (total value : Value) : Except ScriptFault Value :=
  match value.kind with
  | .undefined => .ok total
  | .number => Value.sum total value
  | _ => .error .invalidOperation

def sum : Filter := fun _ value => do
  (← value.items).foldlM (fun total item => addTo total item) (.integer 0)

/-- The least value of a list, the first of several. -/
def least : Filter := fun _ value => do
  match ← value.items with
  | [] => return .undefined
  | first :: rest =>
    return rest.foldl (fun found item => if item.order found == .lt then item else found) first

/-- The greatest value of a list, the last of several. -/
def greatest : Filter := fun _ value => do
  match ← value.items with
  | [] => return .undefined
  | first :: rest =>
    return rest.foldl (fun found item => if item.order found == .lt then found else item) first

end Filter

/-- The filters that make numbers, by name. -/
def numberFilters : List (String × Filter) := [
  ("abs", .absolute),
  ("round", .round),
  ("int", .integer),
  ("float", .real),
  ("bool", .truth),
  ("sum", .sum),
  ("min", .least),
  ("max", .greatest)]

end CatalogPages.Script
