/-
**Numbers as text.**

The shortest decimal of a number, written with a point. `FloatStyle` says how far from the point the
digits may stand before an exponent is written instead, and how the exponent looks:

* `FloatStyle.compact`: what documents and their diagnostics use;
* `FloatStyle.positional`: never an exponent, as on a page;
* `FloatStyle.literal`: as in a list on a page.
-/

import CatalogPages.Decimal.Shortest

namespace CatalogPages.Decimal

/-- How a number is written. -/
structure FloatStyle where
  /-- The places of the point, counted from the first digit, at which no exponent is written. -/
  isPositional : Int → Bool
  /-- What stands before an exponent that is not negative. -/
  plus : List Char
  tie : Tie

/-- Up to sixteen digits before the point and up to four zeros after it. -/
def FloatStyle.compact : FloatStyle := ⟨fun point => -5 < point && point ≤ 16, ['+'], .even⟩

/-- Every place. -/
def FloatStyle.positional : FloatStyle := ⟨fun _ => true, [], .up⟩

/-- Up to sixteen digits before the point and up to three zeros after it. -/
def FloatStyle.literal : FloatStyle := ⟨fun point => -4 < point && point ≤ 16, [], .up⟩

/-- Digits with a point after the first `point` of them, filled up with zeros. -/
def placePoint (digits : List Char) (point : Int) : List Char :=
  if point ≤ 0 then
    ['0', '.'] ++ List.replicate (-point).toNat '0' ++ digits
  else if digits.length ≤ point then
    digits ++ List.replicate (point.toNat - digits.length) '0' ++ ['.', '0']
  else digits.take point.toNat ++ '.' :: digits.drop point.toNat

/-- Digits with a point after the first of them, if more follow, and an exponent. -/
def placeExponent (plus digits : List Char) (point : Int) : List Char :=
  let mantissa := match digits with
    | first :: second :: rest => first :: '.' :: second :: rest
    | single => single
  mantissa ++ 'e' :: ((if 1 ≤ point then plus else []) ++ (toString (point - 1)).toList)

/-- A decimal magnitude as text. -/
def Numeral.write (style : FloatStyle) (d : Numeral) : List Char :=
  if d.digits = 0 then ['0', '.', '0']
  else
    let digits := Nat.toDigits 10 d.digits
    let point : Int := digits.length + d.exponent
    if style.isPositional point then placePoint digits point
    else placeExponent style.plus digits point

/-- A number as text. -/
def writeFloat (style : FloatStyle) (x : Float) : List Char :=
  let negative := x.toBits.toNat / Nat.pow 2 63 == 1
  match Binary.ofFloat? x with
  | some magnitude =>
    let text := (magnitude.shortest style.tie).write style
    if negative then '-' :: text else text
  | none =>
    if x.isNaN then ['N', 'a', 'N'] else if negative then ['-', 'i', 'n', 'f'] else ['i', 'n', 'f']

end CatalogPages.Decimal
