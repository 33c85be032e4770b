/-
**Texts of a document.**

What stands between two quotes. A backslash starts an escape; a character beyond the basic plane is
escaped as two surrogates, which must come as a pair.

* `textAfterQuote` gives the text;
* `skipText` only finds its end, and does not mind which code points are escaped.
-/

import CatalogPages.Json.Cursor

namespace CatalogPages.Json

/-- The value of a hexadecimal digit. -/
def hexValue? (c : Char) : Option Nat :=
  if c.isDigit then some (c.toNat - '0'.toNat)
  else if 'a' ≤ c ∧ c ≤ 'f' then some (c.toNat - 'a'.toNat + 10)
  else if 'A' ≤ c ∧ c ≤ 'F' then some (c.toNat - 'A'.toNat + 10)
  else none

/-- The number that some hexadecimal digits denote. -/
def hexNumber? (text : List Char) : Option Nat :=
  text.foldlM (fun number c => (hexValue? c).map (16 * number + ·)) 0

/-- How many bytes a text takes. -/
def byteCount (text : List Char) : Nat :=
  text.foldr (fun c count => c.utf8Size + count) 0

/-- The four hexadecimal digits of an escape, which are looked for in the next four bytes. -/
def hexEscape : Reader Nat := do
  let cursor ← get
  let digits := cursor.rest.take 4
  if byteCount digits < 4 then
    failAt .unfinishedString (cursor.place.afterAll cursor.rest)
  else
    match hexNumber? digits with
    | some number => pass 4; return number
    | none => failAt .invalidEscape (cursor.place.afterBytes 4 cursor.rest)

/-- Passes over a character that the second half of a pair of surrogates starts with. -/
def pairMark (mark : Char) : Reader Unit := do
  match ← peek with
  | none => failHere .unfinishedString
  | some c => if c = mark then pass 1 else failNext .unfinishedSurrogate

/-- The character of an escape by number, or by two numbers. -/
def escapedByNumber : Reader Char := do
  let first ← hexEscape
  if 0xDC00 ≤ first ∧ first ≤ 0xDFFF then failHere .loneSurrogate
  else if first < 0xD800 ∨ 0xDBFF < first then return Char.ofNat first
  else
    pairMark '\\'
    pairMark 'u'
    let second ← hexEscape
    if second < 0xDC00 ∨ 0xDFFF < second then failHere .loneSurrogate
    else return Char.ofNat ((first - 0xD800) * 0x400 + (second - 0xDC00) + 0x10000)

/-- The characters that are escaped by a letter or by themselves. -/
def letterEscapes : List (Char × Char) :=
  [('"', '"'), ('\\', '\\'), ('/', '/'), ('b', '\x08'), ('f', '\x0c'), ('n', '\n'), ('r', '\r'),
    ('t', '\t')]

/-- What comes after a backslash, given how an escape by number is read. -/
def escaped (byNumber : Reader Char) : Reader Char := do
  match ← peek with
  | none => failHere .unfinishedString
  | some 'u' => pass 1; byNumber
  | some c =>
    match letterEscapes.lookup c with
    | some plain => pass 1; return plain
    | none => failNext .invalidEscape

/-- Reads up to the closing quote, in at most so many steps. A control character stops the text. -/
def textSteps (byNumber : Reader Char) (control : Reader Unit) :
    (steps : Nat) → (backwards : List Char) → Reader String
  | 0, _ => failHere .unfinishedString
  | steps + 1, backwards => do
    match ← peek with
    | none => failHere .unfinishedString
    | some '"' => pass 1; return String.ofList backwards.reverse
    | some '\\' =>
      pass 1
      let c ← escaped byNumber
      textSteps byNumber control steps (c :: backwards)
    | some c =>
      if c < ' ' then control
      pass 1
      textSteps byNumber control steps (c :: backwards)

/-- The text up to the closing quote. -/
def textAfterQuote : Reader String := do
  textSteps escapedByNumber (failNext .controlCharacter) (← get).steps []

/-- Passes over the text up to the closing quote. -/
def skipText : Reader Unit := do
  let _ ← textSteps (do let _ ← hexEscape; return ' ') (failHere .controlCharacter)
    (← get).steps []

end CatalogPages.Json
