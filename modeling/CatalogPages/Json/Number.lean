/-
**Numbers of a document.**

The digits of a number are collected in a whole number of 64 bits as long as they fit; further ones
before the point count as powers of ten, and further ones after it are left out. A number without
point and exponent whose digits all fit is whole; any other is rounded.

* `fitDigits`: the digits that fit;
* `scale`: a whole number times a power of ten, by one multiplication or division of rounded numbers
  (or several, far below one).
-/

import CatalogPages.Decimal.Nearest
import CatalogPages.Json.Cursor

namespace CatalogPages.Json

/-- The value of a digit. -/
def digitValue (c : Char) : Nat :=
  c.toNat - '0'.toNat

/-- Appends digits to a number while the result is below `2 ^ 64`; the second component is how many
have been appended. -/
def fitDigits (collected : Nat) : List Char → Nat × Nat
  | [] => (collected, 0)
  | digit :: digits =>
    let longer := 10 * collected + digitValue digit
    if longer < Nat.pow 2 64 then
      let (number, count) := fitDigits longer digits
      (number, count + 1)
    else (collected, 0)

/-- A power of ten, rounded. -/
def powerOfTen (exponent : Nat) : Float :=
  Decimal.nearest 1 exponent

/-- Divides by powers of ten that are themselves in range. -/
def scaleDown (x : Float) : (steps exponent : Nat) → Float
  | 0, exponent => x / powerOfTen exponent
  | steps + 1, exponent =>
    if exponent ≤ 308 then x / powerOfTen exponent
    else if x == 0 then x
    else scaleDown (x / powerOfTen 308) steps (exponent - 308)

/-- `significand · 10 ^ exponent`, unless it is out of range. -/
def scale (significand : Nat) (exponent : Int) : Option Float :=
  let x := significand.toUInt64.toFloat
  if exponent < 0 then some (scaleDown x exponent.natAbs exponent.natAbs)
  else if exponent ≤ 308 then
    let scaled := x * powerOfTen exponent.toNat
    if scaled.isInf then none else some scaled
  else if x == 0 then some x
  else none

/-- A number with its sign. -/
def signed (negative : Bool) (x : Float) : Float :=
  if negative then -x else x

/-- One or more digits; the first may be zero only if it is alone. -/
def wholeDigits : Reader (List Char) := do
  match (← get).rest with
  | [] => failHere .unfinishedValue
  | '0' :: rest =>
    pass 1
    if rest.head?.any Char.isDigit then failNext .invalidNumber
    return ['0']
  | c :: _ =>
    if c.isDigit then takeWhile Char.isDigit else failNext .invalidNumber

/-- The digits after a point. -/
def fractionDigits : Reader (List Char) := do
  pass 1
  let digits ← takeWhile Char.isDigit
  if digits.isEmpty then
    if (← peek).isNone then failNext .unfinishedValue else failNext .invalidNumber
  return digits

/-- The sign of an exponent: whether it is negative. -/
def exponentSign : Reader Bool := do
  match ← peek with
  | some '+' => pass 1; return false
  | some '-' => pass 1; return true
  | _ => return false

/-- Appends exponent digits while the result is below `2 ^ 31`; the digits left start with the first
that does not fit. -/
def fitExponent (collected : Nat) : List Char → Nat × List Char
  | [] => (collected, [])
  | digit :: digits =>
    let longer := 10 * collected + digitValue digit
    if longer < Nat.pow 2 31 then fitExponent longer digits else (collected, digit :: digits)

/-- The exponent after its letter, or `none` if it is too far below zero to matter. -/
def exponentAfterLetter (significand : Nat) : Reader (Option Int) := do
  pass 1
  let negative ← exponentSign
  match ← peek with
  | none => failHere .unfinishedValue
  | some c => if !c.isDigit then failNext .invalidNumber
  let start ← get
  let digits ← takeWhile Char.isDigit
  let (exponent, excess) := fitExponent 0 digits
  if excess.isEmpty then
    return some (if negative then -exponent else exponent)
  else if significand ≠ 0 && !negative then
    failAt .numberOutOfRange (start.pass (digits.length - excess.length + 1)).place
  else
    return none

/-- The value of a scaled number, unless it is out of range. -/
def scaled (negative : Bool) (significand : Nat) (exponent : Int) : Reader Json := do
  match scale significand exponent with
  | some x => return .real (signed negative x)
  | none => failHere .numberOutOfRange

/-- A number after its sign. -/
def number (negative : Bool) : Reader Json := do
  let whole ← wholeDigits
  let (collected, used) := fitDigits 0 whole
  let excess : Int := whole.length - used
  let next ← peek
  if next = some '.' then
    let fraction ← fractionDigits
    let (significand, used) := fitDigits collected fraction
    finish significand (excess - used) (← peek)
  else if next = some 'e' || next = some 'E' || excess ≠ 0 then
    finish collected excess next
  else if !negative then
    return .integer collected
  else if collected = 0 || Nat.pow 2 63 < collected then
    return .real (-collected.toUInt64.toFloat)
  else
    return .integer (-collected)
where
  finish (significand : Nat) (exponent : Int) (next : Option Char) : Reader Json := do
    if next = some 'e' || next = some 'E' then
      match ← exponentAfterLetter significand with
      | some shift => scaled negative significand (exponent + shift)
      | none => return .real (signed negative 0)
    else scaled negative significand exponent

end CatalogPages.Json
