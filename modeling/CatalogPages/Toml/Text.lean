/-
**Texts and keys of a settings file.**

A text stands between single or double quotes; three of them begin a text of several lines. Only
double quotes have escapes.
-/

import CatalogPages.Json.Text
import CatalogPages.Toml.Scan

namespace CatalogPages.Toml

/-- The characters that are escaped by a letter or by themselves. -/
def letterEscapes : List (Char × Char) :=
  [('b', '\x08'), ('f', '\x0c'), ('n', '\n'), ('r', '\r'), ('t', '\t'), ('\\', '\\'), ('"', '"')]

/-- A character given by so many hexadecimal digits. -/
def numberedChar (width : Nat) : Scanner Char := do
  let digits := (← get).take width
  if digits.length < width then failure
  match Json.hexNumber? digits with
  | some number =>
    if number.isValidChar then
      set ((← get).drop width)
      return Char.ofNat number
    else failure
  | none => failure

/-- What comes after a backslash. -/
def escape : Scanner Char := do
  match ← take fun _ => true with
  | 'u' => numberedChar 4
  | 'U' => numberedChar 8
  | c =>
    match letterEscapes.lookup c with
    | some plain => return plain
    | none => failure

/-- A text on one line, after its opening quote. -/
def basicText : Scanner String := do
  let text ← repeatWhile do
    match ← take fun _ => true with
    | '"' => return none
    | '\\' => return some (← escape)
    | c => if isPlain c then return some c else failure
  return String.ofList text

/-- A text on one line without escapes, after its opening quote. -/
def literalText : Scanner String := do
  let text ← takeAll fun c => isPlain c && c != '\''
  expect ['\'']
  return String.ofList text

/-- Passes over a line break after a backslash, with the white space around it. -/
def foldedBreak : Scanner Bool := do
  let start ← get
  spaces
  if ← lineBreak then
    let _ ← repeatWhile do
      if ← lineBreak then return some ()
      else if (← peek).any isSpace then
        spaces
        return some ()
      else return none
    return true
  else
    set start
    return false

/-- The quotes at the end of a text of several lines: three end it, and up to two before them belong
to it. With fewer than three the text goes on. -/
def closingQuotes (quote : Char) : Scanner (List Char × Bool) := do
  let quotes ← takeAll (· == quote)
  if quotes.length < 3 then return (quotes, false)
  else if quotes.length ≤ 5 then return (quotes.drop 3, true)
  else failure

/-- One piece of a text of several lines, and whether it is the last. -/
def linesPiece (quote : Char) (escapes : Bool) : Scanner (List Char × Bool) := do
  match ← get with
  | [] => failure
  | c :: rest =>
    if c = quote then closingQuotes quote
    else if c = '\\' && escapes then
      set rest
      if ← foldedBreak then return ([], false) else return ([← escape], false)
    else if ← lineBreak then return (['\n'], false)
    else if isPlain c then
      set rest
      return ([c], false)
    else failure

/-- The pieces of a text of several lines, in at most so many steps. -/
def linesPieces (quote : Char) (escapes : Bool) : Nat → Scanner (List Char)
  | 0 => failure
  | steps + 1 => do
    let (piece, last) ← linesPiece quote escapes
    if last then return piece else return piece ++ (← linesPieces quote escapes steps)

/-- A text of several lines, after its opening quotes. A line break right after them is dropped. -/
def linesText (quote : Char) (escapes : Bool) : Scanner String := do
  let _ ← lineBreak
  return String.ofList (← linesPieces quote escapes ((← get).length + 1))

/-- A text between quotes of either kind. -/
def quotedText : Scanner String := do
  if ← accept ['"', '"', '"'] then linesText '"' true
  else if ← accept ['\'', '\'', '\''] then linesText '\'' false
  else if ← accept ['"'] then basicText
  else
    expect ['\'']
    literalText

/-- What may stand in a key without quotes. -/
def isKeyChar (c : Char) : Bool :=
  c.isAlphanum || c == '_' || c == '-'

/-- One part of a key. -/
def keyPart : Scanner String := do
  if ← accept ['"'] then basicText
  else if ← accept ['\''] then literalText
  else
    let name ← takeAll isKeyChar
    if name.isEmpty then failure
    return String.ofList name

/-- How deep values may be nested, and how many parts a key may have, and one more. -/
def depthLimit : Nat := 80

/-- A key: parts with periods between them. The last part stands alone. -/
def key : Scanner (List String × String) := do
  let part : Scanner String := do
    spaces
    let name ← keyPart
    spaces
    return name
  let first ← part
  let more ← repeatWhile do
    if ← accept ['.'] then return some (← part) else return none
  if more.length + 1 ≥ depthLimit then failure
  return ((first :: more).dropLast, more.getLastD first)

end CatalogPages.Toml
