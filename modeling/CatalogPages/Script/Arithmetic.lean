/-
**Arithmetic of a script.**

Truth values count as numbers. Whole numbers have 128 bits, and a result that has more is a fault;
with one operand that is not whole, both are rounded.

* `Value.arithmetic`: an operator that takes two numbers, given on whole numbers and on others;
* `remainder`: of a division whose quotient is cut off, exact and with the sign of the dividend.
-/

import CatalogPages.Script.Order

namespace CatalogPages.Script

namespace Number

/-- A number that need not be whole. -/
def toReal : Number → Float
  | .integer n => Decimal.ofInt n
  | .real x => x

/-- Whether a number has a minus in front of it, which zero may have too. -/
def isMinus (x : Float) : Bool :=
  Nat.pow 2 63 ≤ x.toBits.toNat

/-- A number without its fraction. -/
def truncate (x : Float) : Float :=
  if x < 0 then x.ceil else x.floor

/-- The remainder of two magnitudes. -/
def magnitudeRemainder (dividend divisor : Decimal.Binary) : Float :=
  let exponent := min dividend.exponent divisor.exponent
  let scaled (x : Decimal.Binary) : Nat := x.significand * Nat.pow 2 (x.exponent - exponent).toNat
  let rest := scaled dividend % scaled divisor
  if rest = 0 then 0
  else Decimal.nearestRatio (rest * Nat.pow 2 exponent.toNat) (Nat.pow 2 (-exponent).toNat)

/-- The remainder of a division whose quotient is cut off. -/
def remainder (dividend divisor : Float) : Float :=
  match Decimal.Binary.ofFloat? dividend, Decimal.Binary.ofFloat? divisor with
  | some top, some bottom =>
    if bottom.significand = 0 then 0 / 0
    else
      let rest := magnitudeRemainder top bottom
      if isMinus dividend then -rest else rest
  | some _, none => if divisor.isNaN then divisor else dividend
  | none, _ => 0 / 0

/-- A quotient cut off to a whole number, or brought down so that the remainder is not negative. -/
def wholeQuotient (dividend divisor : Float) : Float :=
  let quotient := truncate (dividend / divisor)
  if remainder dividend divisor < 0 then
    if 0 < divisor then quotient - 1 else quotient + 1
  else quotient

/-- The power of a whole number, if it is small enough to be computed. -/
def wholePower? (base exponent : Int) : Option Int :=
  if exponent < 0 ∨ Int.pow 2 32 ≤ exponent then none
  else if base.natAbs ≤ 1 then
    some (if exponent = 0 then 1 else if exponent % 2 = 0 then base * base else base)
  else if 128 < exponent then none
  else some (Int.pow base exponent.toNat)

end Number

namespace Value

/-- A whole number, if it has 128 bits. -/
def ofInteger (n : Int) : Except ScriptFault Value :=
  if fitsInteger n then .ok (.integer n) else .error .invalidOperation

/-- An operator on two numbers. -/
def arithmetic (integers : Int → Int → Option Int) (reals : Float → Float → Float)
    (left right : Value) : Except ScriptFault Value :=
  match left.number?, right.number? with
  | some (.integer left), some (.integer right) =>
    if fitsInteger left && fitsInteger right then
      match integers left right with
      | some n => ofInteger n
      | Option.none => .error .invalidOperation
    else .error .invalidOperation
  | some left, some right => .ok (.real (reals left.toReal right.toReal))
  | _, _ => .error .invalidOperation

def sum : Value → Value → Except ScriptFault Value :=
  arithmetic (fun left right => some (left + right)) (· + ·)

def difference : Value → Value → Except ScriptFault Value :=
  arithmetic (fun left right => some (left - right)) (· - ·)

def product : Value → Value → Except ScriptFault Value :=
  arithmetic (fun left right => some (left * right)) (· * ·)

/-- A quotient, which is never whole. -/
def quotient (left right : Value) : Except ScriptFault Value :=
  match left.number?, right.number? with
  | some left, some right => .ok (.real (left.toReal / right.toReal))
  | _, _ => .error .invalidOperation

/-- A whole quotient, whose remainder is not negative. -/
def floorQuotient : Value → Value → Except ScriptFault Value :=
  arithmetic (fun left right => if right = 0 then Option.none else some (left / right))
    Number.wholeQuotient

/-- A remainder, which is not negative for whole numbers. -/
def remainder : Value → Value → Except ScriptFault Value :=
  arithmetic (fun left right => if right = 0 then Option.none else some (left % right))
    Number.remainder

def power : Value → Value → Except ScriptFault Value :=
  arithmetic Number.wholePower? Float.pow

/-- A number with its sign changed. The least whole number is given by the magnitude alone, which
has no sign to change. -/
def negate : Value → Except ScriptFault Value
  | .integer n =>
    if n = Int.pow 2 127 then .ok (.integer n)
    else if fitsInteger n then ofInteger (-n)
    else .error .invalidOperation
  | .real x => .ok (.real (-x))
  | _ => .error .invalidOperation

end Value

end CatalogPages.Script
