/-
**The printer of documents.**

One line without gaps. A number that is not whole is the shortest decimal that reads back; one that
is not finite has no text and becomes null.
-/

import CatalogPages.Json.Basic
import CatalogPages.Decimal.Written
import CatalogPages.Text.Quoted

namespace CatalogPages.Json

/-- The four hexadecimal digits of a character's number. -/
def hexDigits (c : Char) : List Char :=
  let number := Text.digits 16 c.toNat
  List.replicate (4 - number.length) '0' ++ number

/-- One character of a text between quotes. -/
def escapeChar (c : Char) : List Char :=
  if c = '"' then ['\\', '"']
  else if c = '\\' then ['\\', '\\']
  else if c = '\x08' then ['\\', 'b']
  else if c = '\t' then ['\\', 't']
  else if c = '\n' then ['\\', 'n']
  else if c = '\x0c' then ['\\', 'f']
  else if c = '\r' then ['\\', 'r']
  else if c < ' ' then ['\\', 'u'] ++ hexDigits c
  else [c]

/-- A text between quotes. -/
def printText (text : String) : List Char :=
  '"' :: text.toList.flatMap escapeChar ++ ['"']

/-- Parts with commas between them. -/
def separated : List (List Char) → List Char
  | [] => []
  | [only] => only
  | first :: rest => first ++ ',' :: separated rest

mutual

/-- A document as text. -/
def print : Json → List Char
  | .null => ['n', 'u', 'l', 'l']
  | .bool true => ['t', 'r', 'u', 'e']
  | .bool false => ['f', 'a', 'l', 's', 'e']
  | .integer n => (toString n).toList
  | .real x =>
    if x.isFinite then Decimal.writeFloat .compact x else ['n', 'u', 'l', 'l']
  | .string text => printText text
  | .array items => '[' :: separated (printItems items) ++ [']']
  | .object members => '\x7b' :: separated (printMembers members) ++ ['\x7d']

/-- The items of a list as texts. -/
def printItems : List Json → List (List Char)
  | [] => []
  | item :: rest => print item :: printItems rest

/-- The members of an object as texts. -/
def printMembers : List (String × Json) → List (List Char)
  | [] => []
  | (key, value) :: rest => (printText key ++ ':' :: print value) :: printMembers rest

end

/-- A document as text. -/
def toText (value : Json) : String :=
  String.ofList value.print

end CatalogPages.Json
