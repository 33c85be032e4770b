/-
**Numbers of a settings file.**

Digits may have single underscores between them. A whole number has 64 bits and may be written in
base 2, 8 or 16; any other number has a fraction, an exponent or both, or is `inf` or `nan`.
-/

import CatalogPages.Decimal.Nearest
import CatalogPages.Json.Text
import CatalogPages.Toml.Basic
import CatalogPages.Toml.Scan

namespace CatalogPages.Toml

/-- Digits of a kind with single underscores between them. -/
def digitRun (kind : Char → Bool) : Scanner (List Char) := do
  let first ← take kind
  let more ← repeatWhile do
    match ← get with
    | '_' :: c :: rest =>
      if kind c then
        set rest
        return some c
      else return none
    | c :: rest =>
      if kind c then
        set rest
        return some c
      else return none
    | [] => return none
  return first :: more

/-- A sign, if one comes next: whether it is negative. -/
def sign : Scanner Bool := do
  if ← accept ['-'] then return true
  else
    let _ ← accept ['+']
    return false

/-- The number that decimal digits denote. -/
def decimalNumber (digits : List Char) : Nat :=
  digits.foldl (fun number c => 10 * number + (c.toNat - '0'.toNat)) 0

/-- Decimal digits that do not start with a zero, unless it stands alone. -/
def decimalDigits : Scanner (List Char) := do
  if ← accept ['0'] then return ['0'] else digitRun Char.isDigit

/-- A whole number in the range of 64 bits. -/
def wholeInRange (negative : Bool) (magnitude : Nat) : Scanner Value :=
  let n : Int := if negative then -magnitude else magnitude
  if -Int.pow 2 63 ≤ n ∧ n < Int.pow 2 63 then return .integer n else failure

/-- The bases other than ten, by the letter after the zero, and their digits. -/
def bases : List (Char × Nat × (Char → Bool)) := [
  ('x', 16, fun c => (Json.hexValue? c).isSome),
  ('o', 8, fun c => '0' ≤ c && c ≤ '7'),
  ('b', 2, fun c => c == '0' || c == '1')]

/-- The number that digits denote in a base. -/
def numberInBase (base : Nat) (digits : List Char) : Nat :=
  digits.foldl (fun number c => base * number + (Json.hexValue? c).getD 0) 0

/-- The digits after a period, or none. -/
def fraction : Scanner (Option (List Char)) := do
  if ← accept ['.'] then return some (← digitRun Char.isDigit) else return none

/-- An exponent, or none. -/
def exponent : Scanner (Option Int) := do
  match ← peek with
  | some 'e' | some 'E' =>
    let _ ← take fun _ => true
    let negative ← sign
    let magnitude : Int := decimalNumber (← digitRun Char.isDigit)
    return some (if negative then -magnitude else magnitude)
  | _ => return none

/-- A number by its decimal digits. One too great to be held is refused, unless it is negative. -/
def rounded (negative : Bool) (whole fraction : List Char) (exponent : Int) : Scanner Value := do
  let x := Decimal.nearest (decimalNumber (whole ++ fraction)) (exponent - fraction.length)
  if x.isInf && !negative then failure
  return .real (if negative then -x else x)

/-- A number in decimal digits. -/
def decimal : Scanner Value := do
  let negative ← sign
  if ← accept ['i', 'n', 'f'] then return .real (if negative then -(1 / 0) else 1 / 0)
  else if ← accept ['n', 'a', 'n'] then return .real (0 / 0)
  else
    let whole ← decimalDigits
    let part ← fraction
    match part, ← exponent with
    | none, none => wholeInRange negative (decimalNumber whole)
    | part, power => rounded negative whole (part.getD []) (power.getD 0)

/-- A number. -/
def number : Scanner Value := do
  match ← get with
  | '0' :: letter :: rest =>
    match bases.lookup letter with
    | some (base, kind) =>
      set rest
      wholeInRange false (numberInBase base (← digitRun kind))
    | none => decimal
  | _ => decimal

end CatalogPages.Toml
