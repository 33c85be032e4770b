/-
**Tags of a page template.**

A tag reaches from two opening braces to the first two closing braces after them. `cut` divides a
template from left to right into tags and the text between them.

* `text_cutFrom`: nothing is lost.
-/

import CatalogPages.Text.Lines
import CatalogPages.Text.Search

namespace CatalogPages.Markers

/-- What a tag starts with. -/
def opening : List Char := ['\x7b', '\x7b']

/-- What a tag ends with. -/
def closing : List Char := ['\x7d', '\x7d']

/-- A tag, the line on which it starts, and the text between it and the next tag. -/
structure Tag where
  line : Nat
  inner : List Char
  following : List Char
  deriving DecidableEq, Repr

/-- A tag as it stands in the template. -/
def Tag.text (tag : Tag) : List Char :=
  opening ++ tag.inner ++ closing

/-- A tag that has no end: the line on which it starts, and what follows its opening braces. -/
structure OpenTag where
  line : Nat
  rest : List Char
  deriving DecidableEq, Repr

/-- A template in parts. -/
structure Cut where
  /-- The text before the first tag. -/
  lead : List Char
  tags : List Tag
  /-- What is left where a tag has no end. -/
  unended : Option OpenTag
  deriving DecidableEq, Repr

/-- The template that was cut. -/
def Cut.text (parts : Cut) : List Char :=
  parts.lead ++ parts.tags.flatMap (fun tag => tag.text ++ tag.following) ++
    match parts.unended with
    | some tag => opening ++ tag.rest
    | none => []

/-- The parts of a template whose first line has a number. -/
def cutFrom (line : Nat) (template : List Char) : Cut :=
  match _ahead : Text.cutAt? opening template with
  | none => ⟨template, [], none⟩
  | some (before, rest) =>
    let start := line + Text.lineBreaks before
    match _behind : Text.cutAt? closing rest with
    | none => ⟨before, [], some ⟨start, rest⟩⟩
    | some (inner, after) =>
      let parts := cutFrom (start + Text.lineBreaks inner) after
      ⟨before, ⟨start, inner, parts.lead⟩ :: parts.tags, parts.unended⟩
termination_by template.length
decreasing_by
  have first := congrArg List.length (Text.eq_of_cutAt?_eq_some _ahead)
  have second := congrArg List.length (Text.eq_of_cutAt?_eq_some _behind)
  simp only [List.length_append, opening, closing, List.length_cons] at first second
  omega

/-- The parts of a template. -/
def cut (template : List Char) : Cut :=
  cutFrom 1 template

/-- Cutting loses nothing. -/
theorem text_cutFrom (line : Nat) (template : List Char) :
    (cutFrom line template).text = template := by
  fun_induction cutFrom line template with
  | case1 => simp [Cut.text]
  | case2 line template before rest ahead start behind =>
    simp [Cut.text, Text.eq_of_cutAt?_eq_some ahead]
  | case3 line template before rest ahead start inner after behind parts ih =>
    rw [Text.eq_of_cutAt?_eq_some ahead, Text.eq_of_cutAt?_eq_some behind]
    simp only [Cut.text] at ih
    conv => rhs; rw [← ih]
    simp [Cut.text, Tag.text, parts]

end CatalogPages.Markers
