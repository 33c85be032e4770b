/-
**Reading a document's text.**

A cursor is what is left of the text, with the place that has been reached: its line, and how many
bytes of that line lie behind. Readers advance it.

* `failHere` puts a flaw at the place reached, `failNext` one byte further;
* a mismatch is found without a place; the value that holds it gives it one (`placed`).
-/

import CatalogPages.Json.Flaw

namespace CatalogPages.Json

/-- A line, and the bytes of it that lie behind. -/
structure Place where
  line : Nat
  column : Nat
  deriving DecidableEq, Repr

/-- What is left of a text, and the place reached. -/
structure Cursor where
  rest : List Char
  place : Place
  /-- How many steps any repetition may take: more than the whole text has characters. -/
  steps : Nat

/-- Why reading stopped. -/
inductive Failure where
  /-- A message and its place. -/
  | atPlace (message : String) (place : Place)
  /-- A mismatch that still has to be given a place, and where reading stopped. -/
  | unplaced (mismatch : Mismatch) (cursor : Cursor)

/-- A step through the text. -/
abbrev Reader := StateT Cursor (Except Failure)

/-- The place after a character. -/
def Place.after (place : Place) (c : Char) : Place :=
  if c = '\n' then ⟨place.line + 1, 0⟩ else ⟨place.line, place.column + c.utf8Size⟩

/-- The place after some characters. -/
def Place.afterAll (place : Place) (text : List Char) : Place :=
  text.foldl Place.after place

/-- The place after so many bytes of the text, or at its end. -/
def Place.afterBytes (place : Place) : (bytes : Nat) → List Char → Place
  | _, [] => place
  | bytes, c :: text =>
    if bytes = 0 then place
    else if c.utf8Size ≤ bytes then (place.after c).afterBytes (bytes - c.utf8Size) text
    else ⟨place.line, place.column + bytes⟩

/-- The place one byte further. -/
def Cursor.next (cursor : Cursor) : Place :=
  cursor.place.afterBytes 1 cursor.rest

/-- A text from its start. -/
def Cursor.start (text : String) : Cursor :=
  ⟨text.toList, ⟨1, 0⟩, text.length + 1⟩

/-- Stops at a place. -/
def failAt (flaw : SyntaxFlaw) (place : Place) : Reader α :=
  throw (.atPlace flaw.message place)

/-- Stops at the place reached. -/
def failHere (flaw : SyntaxFlaw) : Reader α := do
  failAt flaw (← get).place

/-- Stops one byte further. -/
def failNext (flaw : SyntaxFlaw) : Reader α := do
  failAt flaw (← get).next

/-- Stops at a mismatch. -/
def failMismatch (mismatch : Mismatch) : Reader α := do
  throw (.unplaced mismatch (← get))

/-- The next character, which is kept. -/
def peek : Reader (Option Char) := do
  return (← get).rest.head?

/-- The cursor after some characters. -/
def Cursor.pass (cursor : Cursor) (count : Nat) : Cursor :=
  { cursor with
    rest := cursor.rest.drop count
    place := cursor.place.afterAll (cursor.rest.take count) }

/-- Passes over some characters at the start of the rest. -/
def pass (count : Nat) : Reader Unit :=
  modify fun cursor => cursor.pass count

/-- Takes the characters up to the first that is of another kind. -/
def takeWhile (kind : Char → Bool) : Reader (List Char) := do
  let taken := (← get).rest.takeWhile kind
  pass taken.length
  return taken

/-- The four characters that may stand between the parts of a document. -/
def isGap (c : Char) : Bool :=
  c == ' ' || c == '\n' || c == '\t' || c == '\r'

/-- Passes over a gap, and looks at what follows it. -/
def gap : Reader (Option Char) := do
  let _ ← takeWhile isGap
  peek

/-- Gives a mismatch the place where reading stopped. -/
def placed (reader : Reader α) : Reader α := fun cursor =>
  match reader cursor with
  | .error (.unplaced mismatch stopped) => .error (.atPlace mismatch.message stopped.place)
  | result => result

/-- An attempt to close brackets: how far it got, and the flaw that stopped it, if one did. -/
structure Closing where
  reached : Cursor
  flaw : Option SyntaxFlaw

/-- The cursor after a gap. -/
def Cursor.passGap (cursor : Cursor) : Cursor :=
  cursor.pass (cursor.rest.takeWhile isGap).length

/-- Closes a list whose items have all been read. -/
def closeList (cursor : Cursor) : Closing :=
  let cursor := cursor.passGap
  match cursor.rest with
  | ']' :: _ => ⟨cursor.pass 1, none⟩
  | ',' :: _ =>
    let further := (cursor.pass 1).passGap
    ⟨further, some (if further.rest.head? = some ']' then .trailingComma else .trailingCharacters)⟩
  | [] => ⟨cursor, some .unfinishedList⟩
  | _ => ⟨cursor, some .trailingCharacters⟩

/-- Closes an object whose members have all been read. -/
def closeObject (cursor : Cursor) : Closing :=
  let cursor := cursor.passGap
  match cursor.rest with
  | '\x7d' :: _ => ⟨cursor.pass 1, none⟩
  | ',' :: _ => ⟨cursor, some .trailingComma⟩
  | [] => ⟨cursor, some .unfinishedObject⟩
  | _ => ⟨cursor, some .trailingCharacters⟩

/-- Reads what is between brackets, and then closes them. A mismatch inside is placed where the
attempt to close them ends. -/
def enclosed (inside : Reader α) (close : Cursor → Closing) : Reader α := fun cursor =>
  match inside cursor with
  | .ok (value, after) =>
    let closing := close after
    match closing.flaw with
    | none => .ok (value, closing.reached)
    | some flaw => .error (.atPlace flaw.message closing.reached.next)
  | .error (.unplaced mismatch stopped) =>
    .error (.atPlace mismatch.message (close stopped).reached.place)
  | .error failure => .error failure

end CatalogPages.Json
