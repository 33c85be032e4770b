/-
**Lines.**

* `lines`: the lines of a text. A line feed ends a line, and so does a carriage return before one;
  what follows the last line feed is a line if it holds anything.
* `skipLineBreak`: what follows a line break at the start of a text.
* `indentLines`: a text with every line feed followed by an indentation.
-/

namespace CatalogPages.Text

/-- A line without the carriage return that belongs to its line break. -/
def dropReturn (line : List Char) : List Char :=
  if line.getLast? = some '\r' then line.dropLast else line

/-- The lines of a text, without their line breaks. -/
def lines (text : List Char) : List (List Char) :=
  match (text.splitOnP (· == '\n')).reverse with
  | [] => []
  | [] :: ended => (ended.map dropReturn).reverse
  | last :: ended => (ended.map dropReturn).reverse ++ [last]

/-- What follows a line break that starts the text; a text that starts with none is kept. -/
def skipLineBreak : List Char → List Char
  | '\r' :: '\n' :: rest => rest
  | '\n' :: rest => rest
  | rest => rest

/-- How many lines have ended in the text. -/
def lineBreaks (text : List Char) : Nat :=
  text.count '\n'

/-- Puts an indentation after every line feed. -/
def indentLines (width : Nat) (text : List Char) : List Char :=
  text.flatMap fun c => if c = '\n' then '\n' :: List.replicate width ' ' else [c]

/-- A line break, skipped or not, is all that is lost. -/
theorem skipLineBreak_suffix (text : List Char) : skipLineBreak text <:+ text := by
  unfold skipLineBreak
  split
  · exact (List.suffix_cons _ _).trans (List.suffix_cons _ _)
  · exact List.suffix_cons _ _
  · exact List.suffix_rfl

end CatalogPages.Text
