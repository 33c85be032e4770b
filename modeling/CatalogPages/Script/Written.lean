/-
**Written values.**

* `Value.literal`: a value as it stands in a list, with a text between quotes;
* `Value.display`: a value on its own: a text as it is, a number without an exponent, nothing for an
  undefined value;
* `Value.outline`: a literal over several lines, with an item on each.
-/

import CatalogPages.Decimal.Written
import CatalogPages.Script.Value
import CatalogPages.Text.Lines
import CatalogPages.Text.Quoted

namespace CatalogPages.Script

/-- A number of items that may not be known. -/
def writeCount : Option Nat → List Char
  | some count => (toString count).toList
  | none => ['?']

/-- A loop as it is written. -/
def Progress.write (progress : Progress) : List Char :=
  "<loop ".toList ++ (toString progress.index).toList ++ '/' :: writeCount progress.count ++ ['>']

/-- A routine as it is written. -/
def RoutineHead.write (head : RoutineHead) : List Char :=
  "<macro ".toList ++ head.name.toList ++ ['>']

namespace Value

/-- Parts with a comma and a space between them. -/
def separated : List (List Char) → List Char
  | [] => []
  | [only] => only
  | first :: rest => first ++ ',' :: ' ' :: separated rest

/-- Items between square brackets. -/
def bracketed (items : List (List Char)) : List Char :=
  '[' :: separated items ++ [']']

/-- Entries between curly brackets. -/
def braced (entries : List (List Char × List Char)) : List Char :=
  '\x7b' :: separated (entries.map fun (key, value) => key ++ ':' :: ' ' :: value) ++ ['\x7d']

mutual

/-- A value as it stands in a list. -/
def literal : Value → List Char
  | .undefined => "undefined".toList
  | .none => "None".toList
  | .bool true => "True".toList
  | .bool false => "False".toList
  | .integer value => (toString value).toList
  | .real value => Decimal.writeFloat .literal value
  | .text value _ => Text.quote value.toList
  | .list items | .tuple _ items | .stream items true => bracketed (literals items)
  | .stream _ false => "<iterator>".toList
  | .map entries | .record _ entries => braced (entryLiterals entries)
  | .loop progress => progress.write
  | .routine _ head => head.write
  | .function which => which.name.toList

/-- The items of a list. -/
def literals : List Value → List (List Char)
  | [] => []
  | item :: rest => item.literal :: literals rest

/-- The entries of a map. -/
def entryLiterals : List (Value × Value) → List (List Char × List Char)
  | [] => []
  | (key, value) :: rest => (key.literal, value.literal) :: entryLiterals rest

end

/-- A value on its own. -/
def display : Value → List Char
  | .undefined => []
  | .real value => Decimal.writeFloat .positional value
  | .text value _ => value.toList
  | value => value.literal

/-- Parts on a line each, between two brackets. -/
def stacked (opening closing : Char) : List (List Char) → List Char
  | [] => [opening, closing]
  | parts =>
    let lines := parts.flatMap fun part => '\n' :: part ++ [',']
    opening :: Text.indentLines 4 lines ++ ['\n', closing]

mutual

/-- A literal over several lines. -/
def outline : Value → List Char
  | .list items | .tuple _ items | .stream items true => stacked '[' ']' (outlines items)
  | .map entries | .record _ entries => stacked '\x7b' '\x7d' (entryOutlines entries)
  | value => value.literal

def outlines : List Value → List (List Char)
  | [] => []
  | item :: rest => item.outline :: outlines rest

def entryOutlines : List (Value × Value) → List (List Char)
  | [] => []
  | (key, value) :: rest => (key.outline ++ ':' :: ' ' :: value.outline) :: entryOutlines rest

end

end Value

end CatalogPages.Script
