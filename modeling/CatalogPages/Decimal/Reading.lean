/-
**Written numbers.**

A number is written with an optional sign, digits with at most one point among or beside them, and
an optional exponent; an infinity and what is no number have names, in any case of letters.

* `readInteger?`: a whole number, which has a sign and digits alone;
* `readFloat?`: the double-precision number nearest to what is written.
-/

import CatalogPages.Decimal.Nearest

namespace CatalogPages.Decimal

/-- The value of digits in base ten. -/
def digitsValue (digits : List Char) : Nat :=
  digits.foldl (fun number c => 10 * number + (c.toNat - '0'.toNat)) 0

/-- A sign at the front of a text: whether it is a minus, and what follows. -/
def readSign : List Char → Bool × List Char
  | '-' :: rest => (true, rest)
  | '+' :: rest => (false, rest)
  | rest => (false, rest)

/-- A whole number, with or without a sign. -/
def readInteger? (text : List Char) : Option Int :=
  let (negative, digits) := readSign text
  if digits.isEmpty || !digits.all Char.isDigit then none
  else some (if negative then -digitsValue digits else digitsValue digits)

/-- The exponent that a text gives, which may be empty. -/
def readExponent? : List Char → Option Int
  | [] => some 0
  | c :: rest => if c = 'e' ∨ c = 'E' then readInteger? rest else none

/-- A magnitude in digits. -/
def readMagnitude? (text : List Char) : Option Float := do
  let whole := text.takeWhile Char.isDigit
  let rest := text.dropWhile Char.isDigit
  let (fraction, rest) := match rest with
    | '.' :: rest => (rest.takeWhile Char.isDigit, rest.dropWhile Char.isDigit)
    | rest => ([], rest)
  guard (!(whole.isEmpty && fraction.isEmpty))
  return nearest (digitsValue (whole ++ fraction)) ((← readExponent? rest) - fraction.length)

/-- The names of an infinity. -/
def infinityNames : List String := ["inf", "infinity"]

/-- A number, with or without a sign. -/
def readFloat? (text : List Char) : Option Float := do
  let (negative, rest) := readSign text
  let name := String.ofList (rest.map Char.toLower)
  let magnitude ← if infinityNames.contains name then some (1 / 0)
    else if name = "nan" then some (0 / 0)
    else readMagnitude? rest
  return if negative then -magnitude else magnitude

end CatalogPages.Decimal
