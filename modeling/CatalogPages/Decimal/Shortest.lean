/-
**The shortest decimal that reads back.**

A double-precision number is `significand · 2 ^ exponent`. The reals that round to it form an
interval around it, which holds its ends when the significand is even. `shortest` is the decimal of
fewest digits in that interval and, among those, the nearest one; which of two that are equally near
is taken is for `Tie` to say.

* `Binary.ofFloat?`: the magnitude of a finite number;
* `Binary.shortest`: its decimal.
-/

namespace CatalogPages.Decimal

/-- The magnitude `significand · 2 ^ exponent`. -/
structure Binary where
  significand : Nat
  exponent : Int

/-- The magnitude `digits · 10 ^ exponent`. -/
structure Numeral where
  digits : Nat
  exponent : Int

/-- The magnitude of a finite double-precision number; infinities and NaN have none. -/
def Binary.ofFloat? (x : Float) : Option Binary :=
  let bits : Nat := x.toBits.toNat
  let fraction := bits % Nat.pow 2 52
  let biased := bits / Nat.pow 2 52 % Nat.pow 2 11
  if biased = 2047 then none
  else if biased = 0 then some ⟨fraction, -1074⟩
  else some ⟨Nat.pow 2 52 + fraction, Int.ofNat biased - 1075⟩

/-- Which of two neighbours is taken that are equally near. -/
inductive Tie where
  /-- The one whose last digit is even. -/
  | even
  /-- The greater one. -/
  | up
  deriving DecidableEq, Repr

/-- The numbers that round to one magnitude, as fractions over a common denominator. -/
structure RoundingInterval where
  low : Nat
  middle : Nat
  high : Nat
  denominator : Nat
  closed : Bool

/-- The interval is half a unit wide on each side, but a quarter below a power of two. -/
def Binary.interval (x : Binary) : RoundingInterval :=
  let unit := Nat.pow 2 (x.exponent - 2).toNat
  let below := if x.significand = Nat.pow 2 52 ∧ x.exponent > -1074 then 1 else 2
  { low := (4 * x.significand - below) * unit
    middle := 4 * x.significand * unit
    high := (4 * x.significand + 2) * unit
    denominator := Nat.pow 2 (2 - x.exponent).toNat
    closed := x.significand % 2 == 0 }

/-- Whether `digits · 10 ^ exponent` lies in the interval. -/
def RoundingInterval.holds (i : RoundingInterval) (d : Numeral) : Bool :=
  let value := d.digits * Nat.pow 10 d.exponent.toNat * i.denominator
  let scale := Nat.pow 10 (-d.exponent).toNat
  if i.closed then i.low * scale ≤ value && value ≤ i.high * scale
  else i.low * scale < value && value < i.high * scale

/-- How many digits a number has. -/
def digitCount (n : Nat) : Nat :=
  (Nat.toDigits 10 n).length

/-- The exponent of the greatest power of ten that the middle reaches. -/
def RoundingInterval.magnitude (i : RoundingInterval) : Int :=
  let guess : Int := digitCount i.middle - digitCount i.denominator
  if i.middle * Nat.pow 10 (-guess).toNat < i.denominator * Nat.pow 10 guess.toNat then guess - 1
  else guess

/-- The decimal of so many digits nearest to the middle, if it or its neighbour is in the
interval. -/
def RoundingInterval.withDigits? (tie : Tie) (i : RoundingInterval) (count : Nat) :
    Option Numeral :=
  let exponent := i.magnitude - count + 1
  let top := i.middle * Nat.pow 10 (-exponent).toNat
  let bottom := i.denominator * Nat.pow 10 exponent.toNat
  let down : Numeral := ⟨top / bottom, exponent⟩
  let up : Numeral := ⟨top / bottom + 1, exponent⟩
  let remainder := top % bottom
  let downIsNearer := 2 * remainder < bottom ||
    (2 * remainder == bottom && tie == .even && down.digits % 2 == 0)
  match i.holds down, i.holds up with
  | true, true => some (if downIsNearer then down else up)
  | true, false => some down
  | false, true => some up
  | false, false => none

/-- A decimal without the zeros at its end. -/
def Numeral.trim (d : Numeral) : Numeral :=
  let zeros := ((Nat.toDigits 10 d.digits).reverse.takeWhile (· == '0')).length
  if d.digits = 0 then ⟨0, 0⟩ else ⟨d.digits / Nat.pow 10 zeros, d.exponent + zeros⟩

/-- The decimal of fewest digits that rounds to the magnitude. -/
def Binary.shortest (tie : Tie) (x : Binary) : Numeral :=
  if x.significand = 0 then ⟨0, 0⟩
  else
    match (List.range 17).findSome? fun count => x.interval.withDigits? tie (count + 1) with
    | some d => d.trim
    | none => ⟨0, 0⟩

end CatalogPages.Decimal
