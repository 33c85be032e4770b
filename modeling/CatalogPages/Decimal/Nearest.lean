/-
**The nearest double-precision number.**

A fraction is scaled by a power of two until its whole part has 53 bits, or until the smallest
exponent is reached, and rounded there; a half goes to the even neighbour.

* `nearestRatio`: the number nearest to a fraction;
* `nearest`: the number nearest to a decimal;
* `ofInt`: the number nearest to a whole number.
-/

namespace CatalogPages.Decimal

/-- A quotient rounded to a whole number; a half goes to the even neighbour. -/
def roundHalfEven (top bottom : Nat) : Nat :=
  let quotient := top / bottom
  let twice := 2 * (top % bottom)
  if twice < bottom then quotient
  else if bottom < twice then quotient + 1
  else quotient + quotient % 2

/-- The number `significand · 2 ^ exponent` with at most 53 bits, or 2 ^ 53, in the significand and
none below the smallest exponent; an infinity above the greatest number. -/
def ofBinary (significand : Nat) (exponent : Int) : Float :=
  let biased := (exponent + 1075).toNat
  if significand < Nat.pow 2 52 then Float.ofBits significand.toUInt64
  else
    let bits := biased * Nat.pow 2 52 + (significand - Nat.pow 2 52)
    if 2047 * Nat.pow 2 52 ≤ bits then 1 / 0 else Float.ofBits bits.toUInt64

/-- The number nearest to a fraction that is not zero. -/
def nearestRatio (top bottom : Nat) : Float :=
  let guess : Int := Int.ofNat top.log2 - Int.ofNat bottom.log2 - 52
  let scaled (exponent : Int) : Nat × Nat :=
    (top * Nat.pow 2 (-exponent).toNat, bottom * Nat.pow 2 exponent.toNat)
  let (high, low) := scaled guess
  let exponent := max (if high / low < Nat.pow 2 52 then guess - 1 else guess) (-1074)
  let (high, low) := scaled exponent
  ofBinary (roundHalfEven high low) exponent

/-- The number nearest to `digits · 10 ^ exponent`. Decimals that are far out of range are told
apart by their magnitude alone. -/
def nearest (digits : Nat) (exponent : Int) : Float :=
  let magnitude : Int := (Nat.toDigits 10 digits).length + exponent
  if digits = 0 || magnitude < -400 then 0
  else if magnitude > 400 then 1 / 0
  else nearestRatio (digits * Nat.pow 10 exponent.toNat) (Nat.pow 10 (-exponent).toNat)

/-- The number nearest to a whole number. -/
def ofInt (n : Int) : Float :=
  if n = 0 then 0
  else
    let magnitude := nearestRatio n.natAbs 1
    if n < 0 then -magnitude else magnitude

end CatalogPages.Decimal
