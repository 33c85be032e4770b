/-
**Text on a page.**

Five characters have a meaning in HTML and stand there as entities. `escape` leaves `/` alone;
`escapeStrictly` makes an entity of it too.
-/

namespace CatalogPages.Text

/-- A character of a page's text. -/
def escapeChar (c : Char) : List Char :=
  if c = '&' then "&amp;".toList
  else if c = '<' then "&lt;".toList
  else if c = '>' then "&gt;".toList
  else if c = '"' then "&quot;".toList
  else if c = '\'' then "&#x27;".toList
  else [c]

/-- A text with entities for the characters that have a meaning. -/
def escape (text : List Char) : List Char :=
  text.flatMap escapeChar

/-- A text with entities for those characters and for `/`. -/
def escapeStrictly (text : List Char) : List Char :=
  text.flatMap fun c => if c = '/' then "&#x2f;".toList else escapeChar c

end CatalogPages.Text
