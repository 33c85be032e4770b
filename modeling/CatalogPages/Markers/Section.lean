/-
**Sections of a page template.**

A marker opens or closes a section. Some sections are loops of the engine; the others are kept or
dropped before a page is rendered.

* `categorized`: for each category;
* `libraries`: for each library of the category around it or, outside of one, for each library;
* `alphabetic`: for each library;
* `authors`: once;
* a flag: once or not at all.
-/

import CatalogPages.Text.Blank
import CatalogPages.Text.Lines

namespace CatalogPages.Markers

/-- What a tag stands for, told by its first character. -/
inductive Marker where
  /-- A variable, which is kept. -/
  | variable
  | comment
  /-- Opens a section, or the opposite of a flag's section. -/
  | opener (inverted : Bool) (name : List Char)
  | closer (name : List Char)
  /-- A tag that templates must not have. -/
  | unsupported
  deriving DecidableEq, Repr

/-- What stands between a tag's braces tells its meaning; white space around a name is left out. -/
def Marker.ofInner : List Char → Marker
  | '#' :: name => .opener false (Text.trim name)
  | '^' :: name => .opener true (Text.trim name)
  | '/' :: name => .closer (Text.trim name)
  | '!' :: _ => .comment
  | '&' :: _ | '>' :: _ | '<' :: _ | '=' :: _ | '\x7b' :: _ => .unsupported
  | _ => .variable

/-- A section that has been opened. -/
inductive Section where
  | categorized
  | alphabetic
  | libraries (inCategory : Bool)
  | authors
  | flag (name : List Char) (visible : Bool)
  deriving DecidableEq, Repr

/-- A statement of the engine. -/
def statement (text : String) : List Char :=
  ['\x7b', '%', ' '] ++ text.toList ++ [' ', '%', '\x7d']

/-- Statements that give names to members of a loop's variable. -/
def bindings (pairs : List (String × String)) : List Char :=
  pairs.flatMap fun (name, path) => statement ("set " ++ name ++ " = " ++ path)

/-- The loop over categories, and the names it gives. -/
def categoryLoop : List Char :=
  statement "for category in categories" ++
    bindings [("key", "category.key"), ("name", "category.key"), ("title", "category.title")]

/-- A loop over libraries, and the names it gives. -/
def libraryLoop (source : String) : List Char :=
  statement ("for library in " ++ source) ++
    bindings [("key", "library.key"), ("name", "library.name"),
      ("authors", "library.authors_formatted"), ("link", "library.documentation_link"),
      ("description", "library.description_clean")]

/-- The end of a loop. -/
def endLoop : List Char :=
  statement "endfor"

namespace Section

def name : Section → List Char
  | categorized => "categorized".toList
  | alphabetic => "alphabetic".toList
  | libraries _ => "libraries".toList
  | authors => "authors".toList
  | flag name _ => name

/-- What takes the place of the opening marker. -/
def openText : Section → List Char
  | categorized => categoryLoop
  | libraries true => libraryLoop "category.libraries"
  | libraries false | alphabetic => libraryLoop "libraries"
  | authors | flag .. => []

/-- What takes the place of the closing marker. -/
def closeText : Section → List Char
  | categorized | alphabetic | libraries _ => endLoop
  | authors | flag .. => []

/-- Whether a line break after a marker of the section is dropped with the marker, so that a marker
on a line of its own leaves no line. -/
def ownsLine : Section → Bool
  | authors => false
  | _ => true

/-- Whether what stands in the section is dropped. -/
def hides : Section → Bool
  | flag _ visible => !visible
  | _ => false

/-- The text after a marker of the section. -/
def trimFollowing (entry : Section) (following : List Char) : List Char :=
  if entry.ownsLine then Text.skipLineBreak following else following

end Section

/-- Whether one of the open sections drops what stands in it. -/
def isHidden (stack : List Section) : Bool :=
  stack.any Section.hides

end CatalogPages.Markers
