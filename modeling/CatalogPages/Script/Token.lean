/-
**Tokens of a script.**

* `Token`: names, texts, numbers and marks;
* `textToken`: the token of a quoted text, whose characters may be escaped by a letter, by a number
  in base sixteen or in base eight;
* `scanNumber`: a number, with underscores between its digits if it has any.
-/

import CatalogPages.Decimal.Reading
import CatalogPages.Json.Text
import CatalogPages.Script.Fault

namespace CatalogPages.Script

/-- A token of code. -/
inductive Token where
  | name (name : String)
  | text (value : String)
  | integer (value : Nat)
  | real (value : Float)
  | symbol (mark : String)
  /-- Where code cannot be read on. -/
  | flaw (fault : ScriptFault)

/-! ### Quoted texts -/

/-- A quoted text's characters before its closing quote, and what follows it. -/
def quotedText (quote : Char) : List Char → Option (List Char × List Char)
  | [] => none
  | '\\' :: c :: text => (quotedText quote text).map fun (inner, rest) => ('\\' :: c :: inner, rest)
  | c :: text =>
    if c = quote then some ([], text)
    else (quotedText quote text).map fun (inner, rest) => (c :: inner, rest)

/-- The characters that are escaped by a letter or by themselves. -/
def letterEscapes : List (Char × Char) :=
  ('\'', '\'') :: Json.letterEscapes

/-- Whether a character is a digit in base eight. -/
def isOctal (c : Char) : Bool :=
  '0' ≤ c && c ≤ '7'

/-- The number of a character in base sixteen at the front of a text, and what follows it. -/
def hexFront? (count : Nat) (text : List Char) : Option (Nat × List Char) :=
  if text.length < count then none
  else (Json.hexNumber? (text.take count)).map (·, text.drop count)

/-- The character that a number in base sixteen stands for, and what follows it. Two surrogates must
come as a pair. -/
def escapedByNumber? (text : List Char) : Option (Char × List Char) := do
  let (first, rest) ← hexFront? 4 text
  if first < 0xD800 ∨ 0xE000 ≤ first then return (Char.ofNat first, rest)
  if 0xDC00 ≤ first then none
  match rest with
  | '\\' :: 'u' :: rest =>
    let (second, rest) ← hexFront? 4 rest
    if second < 0xDC00 ∨ 0xE000 ≤ second then none
    return (Char.ofNat ((first - 0xD800) * 0x400 + (second - 0xDC00) + 0x10000), rest)
  | _ => none

/-- The value of digits in base eight. -/
def octalValue (digits : List Char) : Nat :=
  digits.foldl (fun number c => 8 * number + (c.toNat - '0'.toNat)) 0

/-- The characters that an escape stands for, after its backslash, and what follows it. A backslash
that starts no escape stands for itself. -/
def escape? : List Char → Option (List Char × List Char)
  | [] => none
  | 'u' :: text => (escapedByNumber? text).map fun (c, rest) => ([c], rest)
  | 'x' :: text => (hexFront? 2 text).map fun (number, rest) => ([Char.ofNat number], rest)
  | c :: text =>
    match letterEscapes.lookup c with
    | some plain => some ([plain], text)
    | none =>
      if isOctal c then
        let digits := ((c :: text).take 3).takeWhile isOctal
        if 255 < octalValue digits then none
        else some ([Char.ofNat (octalValue digits)], (c :: text).drop digits.length)
      else some (['\\', c], text)

/-- A quoted text without its escapes, in at most so many steps. -/
def unescapeSteps : (steps : Nat) → List Char → Option (List Char)
  | 0, _ | _ + 1, [] => some []
  | steps + 1, '\\' :: text => do
    let (plain, rest) ← escape? text
    return plain ++ (← unescapeSteps steps rest)
  | steps + 1, c :: text => (unescapeSteps steps text).map (c :: ·)

/-- The token of a quoted text. -/
def textToken (inner : List Char) : Token :=
  match unescapeSteps inner.length inner with
  | some text => .text (String.ofList text)
  | none => .flaw .badEscape

/-! ### Numbers -/

/-- How much of a number has been passed. -/
inductive NumberState where
  | whole
  | fraction
  | exponentStart
  | exponent
  deriving DecidableEq

/-- The characters of a number in base ten. -/
def numberText : NumberState → List Char → List Char × List Char
  | _, [] => ([], [])
  | state, c :: text =>
    let next? : Option NumberState :=
      if c.isDigit then some (if state = .exponentStart then .exponent else state)
      else if c = '_' then some state
      else if c = '.' ∧ state = .whole then some .fraction
      else if (c = 'e' ∨ c = 'E') ∧ (state = .whole ∨ state = .fraction) then some .exponentStart
      else if (c = '+' ∨ c = '-') ∧ state = .exponentStart then some .exponent
      else none
    match next? with
    | some next =>
      let (taken, rest) := numberText next text
      (c :: taken, rest)
    | none => ([], c :: text)

/-- Numbers that a token can hold. -/
def tokenLimit : Nat := Nat.pow 2 128

/-- The token of a number in base ten. -/
def numberToken (text : List Char) : Token :=
  let digits := text.filter (· != '_')
  if text.getLast? = some '_' then .flaw .malformed
  else if digits.all Char.isDigit then
    let value := Decimal.digitsValue digits
    if value < tokenLimit then .integer value else .flaw .malformed
  else
    match Decimal.readMagnitude? digits with
    | some x => .real x
    | none => .flaw .malformed

/-- The token of a number in another base, by the characters after its letter. -/
def radixToken (base : Nat) (text : List Char) : Token :=
  let digits := text.filter (· != '_')
  let value := digits.foldl (fun number c => base * number + (Json.hexValue? c).getD 0) 0
  if digits.isEmpty ∨ text.getLast? = some '_' ∨ tokenLimit ≤ value ∨
      digits.any (fun c => base ≤ (Json.hexValue? c).getD base) then .flaw .malformed
  else .integer value

/-- The bases other than ten, by the letter after the zero. -/
def radix? : List Char → Option (Nat × List Char)
  | '0' :: letter :: rest =>
    if letter = 'x' ∨ letter = 'X' then some (16, rest)
    else if letter = 'o' ∨ letter = 'O' then some (8, rest)
    else if letter = 'b' ∨ letter = 'B' then some (2, rest)
    else none
  | _ => none

/-- The characters of a number in another base. -/
def isRadixChar (base : Nat) (c : Char) : Bool :=
  c.isDigit || c == '_' || (base == 16 && (Json.hexValue? c).isSome)

/-- A number at the front of a text. -/
def scanNumber (text : List Char) : Token × List Char :=
  match radix? text with
  | some (base, rest) =>
    (radixToken base (rest.takeWhile (isRadixChar base)), rest.dropWhile (isRadixChar base))
  | none =>
    let (digits, rest) := numberText .whole text
    (numberToken digits, rest)

/-- A whole number at the front of a text, where a point would follow it on its own. -/
def scanPlace (text : List Char) : Token × List Char :=
  (numberToken (text.takeWhile Char.isDigit), text.dropWhile Char.isDigit)

end CatalogPages.Script
