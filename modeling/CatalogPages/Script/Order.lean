/-
**The order of values.**

Values of every kind can be compared. The kind decides first; within a kind numbers go by size,
texts by their characters, lists item by item and maps entry by entry. Equality differs from the
order where numbers do: a truth value is the same as its number, and the two zeros are the same.

* `Value.order`: the order, which decides what a map holds under a key;
* `Value.equal`: whether two values are the same.
-/

import CatalogPages.Decimal.Nearest
import CatalogPages.Decimal.Shortest
import CatalogPages.Script.Value

namespace CatalogPages.Script

/-- What operators compute with. -/
inductive Number where
  | integer (value : Int)
  | real (value : Float)

/-- Whether a whole number has 128 bits. -/
def fitsInteger (n : Int) : Bool :=
  -Int.pow 2 127 ≤ n && n < Int.pow 2 127

namespace Number

/-- The whole number that a number is without a fraction, if it is finite. -/
def wholePart? (x : Float) : Option Int :=
  (Decimal.Binary.ofFloat? x).map fun magnitude =>
    let whole : Int := magnitude.significand * Nat.pow 2 magnitude.exponent.toNat /
      Nat.pow 2 (-magnitude.exponent).toNat
    if x < 0 then -whole else whole

/-- Whole numbers that count as the power of two above them, because no greater number of as many
bits is there. -/
def countsAsPower (n : Int) : Bool :=
  n == Int.pow 2 64 - 1 || n == Int.pow 2 127 - 1 || n == Int.pow 2 128 - 1

/-- A whole number as one that need not be whole, if nothing is lost. -/
def exactReal? (n : Int) : Option Float :=
  let x := Decimal.ofInt n
  if wholePart? x = some n || countsAsPower n then some x else none

/-- Where a number stands among all numbers: the negative zero below the positive one, and what is
no number below them all. -/
def place (x : Float) : Int :=
  let bits : Int := x.toBits.toNat
  if x.isNaN then -Int.pow 2 64
  else if bits < Int.pow 2 63 then bits
  else Int.pow 2 63 - bits - 1

/-- The order of a whole number and one that need not be whole. -/
def orderMixed (n : Int) (x : Float) : Ordering :=
  match exactReal? n, wholePart? x with
  | some y, _ => compare (place y) (place x)
  | none, some whole => compare n whole
  | none, none => if x > 0 then .lt else .gt

/-- The order of two numbers. -/
def order : Number → Number → Ordering
  | .integer n, .integer m => compare n m
  | .real x, .real y => compare (place x) (place y)
  | .integer n, .real y => orderMixed n y
  | .real x, .integer m => (orderMixed m x).swap

/-- Whether two numbers are the same. -/
def equal : Number → Number → Bool
  | .integer n, .integer m => fitsInteger n && n == m
  | .real x, .real y => x == y
  | .integer n, .real y => (exactReal? n).any (· == y)
  | .real x, .integer m => (exactReal? m).any (x == ·)

end Number

namespace Value

/-- A value as a number. A truth value counts as one or zero. -/
def number? : Value → Option Number
  | .bool value => some (.integer (if value then 1 else 0))
  | .integer value => some (.integer value)
  | .real value => some (.real value)
  | _ => Option.none

/-- The items of a value that holds items in order. -/
def parts? : Value → Option (List Value)
  | .list items | .tuple _ items | .stream items _ => some items
  | _ => Option.none

/-- The order of two values of one kind that hold no others. -/
def orderPlain : Value → Value → Ordering
  | .text left _, .text right _ => compare left right
  | .function left, .function right => compare left.name right.name
  | left, right =>
    match left.number?, right.number? with
    | some left, some right => left.order right
    | _, _ => .eq

mutual

/-- The order of two values: by kind, and within a kind by content. -/
def order (left right : Value) : Ordering :=
  match compare left.kind.rank right.kind.rank with
  | .eq =>
    match left with
    | .list items | .tuple _ items | .stream items _ => orderItems items (right.parts?.getD [])
    | .map entries | .record _ entries => orderEntries entries (right.entries?.getD [])
    | left => orderPlain left right
  | kinds => kinds

/-- The order of two lists, item by item. -/
def orderItems : List Value → List Value → Ordering
  | [], [] => .eq
  | [], _ :: _ => .lt
  | _ :: _, [] => .gt
  | left :: lefts, right :: rights => (order left right).then (orderItems lefts rights)

/-- The order of two maps, entry by entry. -/
def orderEntries : List (Value × Value) → List (Value × Value) → Ordering
  | [], [] => .eq
  | [], _ :: _ => .lt
  | _ :: _, [] => .gt
  | (leftKey, left) :: lefts, (rightKey, right) :: rights =>
    ((order leftKey rightKey).then (order left right)).then (orderEntries lefts rights)

end

/-- What entries hold under a key. -/
def lookup (key : Value) (entries : List (Value × Value)) : Option Value :=
  (entries.find? fun entry => order key entry.1 == .eq).map (·.2)

/-- Sets what entries in the order of their keys hold under a key. -/
def put (key value : Value) : List (Value × Value) → List (Value × Value)
  | [] => [(key, value)]
  | (other, held) :: rest =>
    match order key other with
    | .lt => (key, value) :: (other, held) :: rest
    | .eq => (other, value) :: rest
    | .gt => (other, held) :: put key value rest

/-- Whether two values that hold no others are the same. -/
def equalPlain : Value → Value → Bool
  | .undefined, .undefined | .none, .none => true
  | .text left _, .text right _ => left == right
  | .function left, .function right => left == right
  | .loop left, .loop right => left == right
  | .routine left _, .routine right _ => left == right
  | left, right =>
    match left.number?, right.number? with
    | some left, some right => left.equal right
    | _, _ => false

mutual

/-- Whether two values are the same. Two maps are if they hold the same under the same keys, in
whatever order. -/
def equal : Value → Value → Bool
  | .list items, right | .tuple _ items, right | .stream items _, right =>
    right.parts?.any fun others => equalItems items others
  | .map entries, right | .record _ entries, right =>
    right.entries?.any fun others =>
      entries.length == others.length && equalEntries entries others
  | left, right => equalPlain left right

/-- Whether two lists have the same items. -/
def equalItems : List Value → List Value → Bool
  | [], [] => true
  | left :: lefts, right :: rights => equal left right && equalItems lefts rights
  | _, _ => false

/-- Whether a map holds each of some entries. -/
def equalEntries : List (Value × Value) → List (Value × Value) → Bool
  | [], _ => true
  | (key, value) :: rest, others =>
    (lookup key others).any (fun other => equal value other) && equalEntries rest others

end

end Value

end CatalogPages.Script
