/-
**From section markers to the engine's statements.**

`Rules.compile` exchanges the markers of a template for loops of the engine, drops what is hidden,
and leaves variables as they are. It keeps the sections that are open, innermost first.

* `MarkerFault`: why a template is refused, in the order of its tags.
-/

import CatalogPages.Fault
import CatalogPages.Markers.Section
import CatalogPages.Markers.Tag
import CatalogPages.Text.Search

namespace CatalogPages.Markers

/-- What is decided before a page is rendered. -/
structure Rules where
  /-- The flags, and whether their sections are kept. -/
  flags : List (String × Bool) := []
  /-- A name of an encoding, and the one that takes its place where it occurs first. -/
  charset : Option (String × String) := none

/-- Why a template is refused. -/
inductive MarkerFault where
  | unended (line : Nat)
  | unsupported (tag : List Char) (line : Nat)
  | unknownSection (marker : List Char) (line : Nat)
  | nothingOpen (marker : List Char) (line : Nat)
  | mismatch (expected : List Char) (found : List Char) (line : Nat)
  | unclosed (name : List Char)
  deriving DecidableEq, Repr

/-- A marker of a section, made of its sigil and its name. -/
def markerText (sigil : Char) (name : List Char) : List Char :=
  opening ++ sigil :: name ++ closing

def MarkerFault.toFault : MarkerFault → Fault
  | unended line => .of "unterminated tag" [("line", toString line)]
  | unsupported tag line =>
    .of "unsupported tag" [("tag", String.ofList tag), ("line", toString line)]
  | unknownSection marker line =>
    .of "unknown block marker" [("marker", String.ofList marker), ("line", toString line)]
  | nothingOpen marker line =>
    .of "close marker without an open section"
      [("marker", String.ofList marker), ("line", toString line)]
  | mismatch expected found line =>
    .of "mismatched close marker"
      [("expected", String.ofList (markerText '/' expected)), ("found", String.ofList found),
        ("line", toString line)]
  | unclosed name =>
    .of "unclosed block marker" [("marker", String.ofList (markerText '#' name))]

/-- The section that an opening marker names inside the open sections. A flag goes before the other
sections, and only a flag has an opposite. -/
def Rules.section? (rules : Rules) (stack : List Section) (inverted : Bool) (name : List Char) :
    Option Section :=
  match rules.flags.lookup (String.ofList name) with
  | some value => some (.flag name (value != inverted))
  | none =>
    if inverted then none
    else if name = "categorized".toList then some .categorized
    else if name = "alphabetic".toList then some .alphabetic
    else if name = "libraries".toList then some (.libraries (stack.contains .categorized))
    else if name = "authors".toList then some .authors
    else none

/-- Text that stands inside the open sections. -/
def shown (stack : List Section) (text : List Char) : List Char :=
  if isHidden stack then [] else text

/-- What tags and the text after them become inside the open sections. -/
def Rules.compileTags (rules : Rules) :
    (stack : List Section) → List Tag → (unended : Option OpenTag) →
    Except MarkerFault (List Char)
  | _, [], some tag => .error (.unended tag.line)
  | [], [], none => .ok []
  | entry :: _, [], none => .error (.unclosed entry.name)
  | stack, tag :: tags, unended =>
    match Marker.ofInner tag.inner with
    | .variable => do
      let rest ← rules.compileTags stack tags unended
      return shown stack (tag.text ++ tag.following) ++ rest
    | .comment => do
      let rest ← rules.compileTags stack tags unended
      return shown stack (Text.skipLineBreak tag.following) ++ rest
    | .opener inverted name =>
      match rules.section? stack inverted name with
      | none => .error (.unknownSection tag.text tag.line)
      | some entry => do
        let rest ← rules.compileTags (entry :: stack) tags unended
        return shown stack entry.openText ++
          shown (entry :: stack) (entry.trimFollowing tag.following) ++ rest
    | .closer name =>
      match stack with
      | [] => .error (.nothingOpen tag.text tag.line)
      | entry :: stack =>
        if entry.name = name then do
          let rest ← rules.compileTags stack tags unended
          return shown stack (entry.closeText ++ entry.trimFollowing tag.following) ++ rest
        else .error (.mismatch entry.name tag.text tag.line)
    | .unsupported => .error (.unsupported tag.text tag.line)

/-- What a template becomes, before the name of its encoding is looked at. -/
def Rules.compileText (rules : Rules) (template : List Char) : Except MarkerFault (List Char) := do
  let parts := cut template
  return parts.lead ++ (← rules.compileTags [] parts.tags parts.unended)

/-- Exchanges the first name of an encoding. -/
def Rules.rename (rules : Rules) (text : List Char) : List Char :=
  match rules.charset with
  | some (before, after) =>
    if before.isEmpty then text else Text.replaceFirst before.toList after.toList text
  | none => text

/-- What a template becomes. -/
def Rules.compile (rules : Rules) (template : List Char) : Except MarkerFault (List Char) :=
  (rules.compileText template).map rules.rename

end CatalogPages.Markers
