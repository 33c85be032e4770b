/-
**Quoted text.**

Text between double quotes as diagnostics show it: a quote and a backslash follow a backslash, tab,
line feed, carriage return and the null character have a letter, and what cannot be seen on its own
is given by its number in hexadecimal.
-/

import CatalogPages.Text.Case
import CatalogPages.Text.SpelledTable

namespace CatalogPages.Text

/-- The lower-case digits of a number in a base up to sixteen. -/
def digits (base n : Nat) : List Char :=
  Nat.toDigits base n

/-- Whether quoted text gives a character by its number. -/
def isSpelled (c : Char) : Bool :=
  inRuns spelledRuns c.toNat

/-- One character of quoted text. -/
def quoteChar (c : Char) : List Char :=
  if c = '"' then ['\\', '"']
  else if c = '\\' then ['\\', '\\']
  else if c = '\t' then ['\\', 't']
  else if c = '\n' then ['\\', 'n']
  else if c = '\r' then ['\\', 'r']
  else if c = '\x00' then ['\\', '0']
  else if isSpelled c then ['\\', 'u', '\x7b'] ++ digits 16 c.toNat ++ ['\x7d']
  else [c]

/-- A text between double quotes, with its special characters spelled out. -/
def quote (text : List Char) : List Char :=
  '"' :: text.flatMap quoteChar ++ ['"']

end CatalogPages.Text
