/-
**What a template means.**

The marker language on its own: the text of a section tree, at a place of a page.

* `Item`, `Scene`: what the loops around a place are at, innermost first;
* `PageContext.value?`: the value of a name. The innermost loop that gives it one decides, and then
  the page's own variables;
* `SectionTree.page`: the text of a tree;
* `PageContext.Fits`: templates that hold nothing but texts, variables, comments and sections.
-/

import CatalogPages.Engine
import CatalogPages.Proofs.Markers.Cutting
import CatalogPages.Proofs.Markers.Denotation
import CatalogPages.Proofs.Script.Pieces

namespace CatalogPages

open Markers (Cut Kind Marker Rules SectionTree)

/-! ### Places on a page -/

/-- What a loop is at. -/
inductive Item where
  | inCategory (view : CategoryView)
  | atLibrary (library : Library)

/-- The names that a loop gives values to. -/
def Item.names : Item → List (String × String)
  | inCategory view =>
    [("key", view.category.key), ("name", view.category.key), ("title", view.category.title)]
  | atLibrary library =>
    [("key", library.key), ("name", library.name), ("authors", library.authorsProse),
      ("link", library.documentationLink), ("description", library.cleanDescription)]

def Item.category? : Item → Option CategoryView
  | inCategory view => some view
  | atLibrary _ => none

/-- What the loops around a place are at, innermost first. -/
abbrev Scene := List Item

/-- The category that the innermost loop over categories is at. -/
def Scene.category? (scene : Scene) : Option CategoryView :=
  scene.findSome? Item.category?

namespace PageContext

variable (context : PageContext)

/-- The value of a name at a place. -/
def value? (scene : Scene) (name : String) : Option Json :=
  ((scene.findSome? fun item => item.names.lookup name).map .string).or
    (context.members.lookup name)

/-- A value as it is shown, with entities. What has no value is not shown. -/
def shownValue : Option Json → List Char
  | none => []
  | some (.string text) => Text.escape text.toList
  | some value => (Script.Value.ofJson value).onPage true

/-- The libraries of the category around a place or, outside of one, all of them. -/
def librariesAt (scene : Scene) : List Library :=
  match scene.category? with
  | some view => view.libraries
  | none => context.libraries

end PageContext

/-! ### The text of a tree -/

namespace Markers

open Text (skipLineBreak)

/-- What a section makes of its body, given the texts after its two markers. -/
def Kind.page (context : PageContext) (scene : Scene) (start : List Char)
    (body : Scene → List Char) (after : List Char) : Kind → List Char
  | categorized =>
    (context.categories.flatMap fun view =>
      skipLineBreak start ++ body (.inCategory view :: scene)) ++ skipLineBreak after
  | alphabetic =>
    (context.libraries.flatMap fun library =>
      skipLineBreak start ++ body (.atLibrary library :: scene)) ++ skipLineBreak after
  | libraries =>
    ((context.librariesAt scene).flatMap fun library =>
      skipLineBreak start ++ body (.atLibrary library :: scene)) ++ skipLineBreak after
  | authors => start ++ body scene ++ after
  | flag true => skipLineBreak start ++ body scene ++ skipLineBreak after
  | flag false => skipLineBreak after

/-- The text of a tree at a place of a page. -/
def SectionTree.page (context : PageContext) (rules : Rules) : SectionTree → Scene → List Char
  | done, _ => []
  | value tag _ rest, scene =>
    PageContext.shownValue (context.value? scene (String.ofList tag.inner)) ++ tag.following ++
      rest.page context rules scene
  | comment tag _ rest, scene => skipLineBreak tag.following ++ rest.page context rules scene
  | enclosed opener inverted name _ body closer _ rest, scene =>
    match rules.kind? inverted name with
    | some kind =>
      kind.page context scene opener.following (body.page context rules) closer.following ++
        rest.page context rules scene
    | none => []

/-- How deep the loops of a section go that are not hidden, given how deep those in it go. -/
def Kind.depth (inside : Nat) : Kind → Nat
  | categorized | alphabetic | libraries => inside + 1
  | authors | flag true => inside
  | flag false => 0

/-- How many loops stand inside one another where nothing hides them. -/
def SectionTree.depth (rules : Rules) : SectionTree → Nat
  | done => 0
  | value _ _ rest | comment _ _ rest => rest.depth rules
  | enclosed _ inverted name _ body _ _ rest =>
    match rules.kind? inverted name with
    | some kind => max (kind.depth (body.depth rules)) (rest.depth rules)
    | none => 0

end Markers

/-! ### Templates without the engine's own statements -/

/-- The names that loops give values to. -/
def loopNames : List String :=
  ["category", "library", "key", "name", "title", "authors", "link", "description"]

/-- The names that templates show, apart from globals. -/
def shownNames : List String :=
  ["key", "name", "title", "authors", "link", "description", "version", "version_underscored",
    "release_notes_url", "unreleased_lib_count"]

/-- A global that can be shown. -/
structure PageContext.ShowsGlobal (context : PageContext) (name : List Char) : Prop where
  isGlobal : String.ofList name ∈ context.globals.map Prod.fst
  isWord : Script.IsWord name
  free : String.ofList name ∉ Script.constantWords
  other : String.ofList name ≠ "loop"

/-- Templates that hold nothing but texts without delimiters, variables, comments and sections, on a
page whose globals have names of their own. -/
structure PageContext.Fits (context : PageContext) (parts : Cut) : Prop where
  plain : ∀ text ∈ parts.texts, Script.Plain text
  shows : ∀ tag ∈ parts.tags, Marker.ofInner tag.inner = .variable →
    String.ofList tag.inner ∈ shownNames ∨ context.ShowsGlobal tag.inner
  apart : ∀ name ∈ context.globals.map Prod.fst,
    name ∉ context.builtIn.map Prod.fst ∧ name ∉ loopNames

end CatalogPages
