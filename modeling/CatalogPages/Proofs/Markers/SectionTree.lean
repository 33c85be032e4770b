/-
**Section trees.**

The tags of a template, grouped: an opening marker, what stands in its section, the closing marker
of the same name, and what follows. A tree holds the proof that its markers fit, so that there is no
other tree with the same tags (`tags_injective`).

* `Nested`: the properly nested words of opening and closing names;
* `exists_tree_iff_nested`: tags have a tree exactly when none is unsupported and their markers are
  properly nested.
-/

import CatalogPages.Markers.Section
import CatalogPages.Markers.Tag

namespace CatalogPages.Markers

/-- Tags, grouped by the sections that their markers open and close. -/
inductive SectionTree where
  | done
  | value (tag : Tag) (isVariable : Marker.ofInner tag.inner = .variable) (rest : SectionTree)
  | comment (tag : Tag) (isComment : Marker.ofInner tag.inner = .comment) (rest : SectionTree)
  /-- A section, between its two markers. -/
  | enclosed (opener : Tag) (inverted : Bool) (name : List Char)
      (opens : Marker.ofInner opener.inner = .opener inverted name) (body : SectionTree)
      (closer : Tag) (closes : Marker.ofInner closer.inner = .closer name) (rest : SectionTree)

namespace SectionTree

/-- The tags of a tree, in order. -/
def tags : SectionTree → List Tag
  | done => []
  | value tag _ rest | comment tag _ rest => tag :: rest.tags
  | enclosed opener _ _ _ body closer _ rest => opener :: body.tags ++ closer :: rest.tags

@[simp] theorem tags_done : done.tags = [] := rfl

@[simp] theorem tags_value (tag : Tag) (isVariable) (rest : SectionTree) :
    (value tag isVariable rest).tags = tag :: rest.tags := rfl

@[simp] theorem tags_comment (tag : Tag) (isComment) (rest : SectionTree) :
    (comment tag isComment rest).tags = tag :: rest.tags := rfl

@[simp] theorem tags_enclosed (opener : Tag) (inverted : Bool) (name : List Char) (opens)
    (body : SectionTree) (closer : Tag) (closes) (rest : SectionTree) :
    (enclosed opener inverted name opens body closer closes rest).tags =
      opener :: (body.tags ++ closer :: rest.tags) := rfl

/-- The tree of one tree's tags and then another's. -/
def append : SectionTree → SectionTree → SectionTree
  | done, other => other
  | value tag isVariable rest, other => value tag isVariable (rest.append other)
  | comment tag isComment rest, other => comment tag isComment (rest.append other)
  | enclosed opener inverted name opens body closer closes rest, other =>
    enclosed opener inverted name opens body closer closes (rest.append other)

@[simp] theorem tags_append (first second : SectionTree) :
    (first.append second).tags = first.tags ++ second.tags := by
  induction first with
  | done => rfl
  | value _ _ _ ih => simp [append, ih]
  | comment _ _ _ ih => simp [append, ih]
  | enclosed _ _ _ _ _ _ _ _ _ ih => simp [append, ih]

/-! ### One tree for some tags -/

/-- Tags that are at their end, or go on with a marker that closes a section. -/
def AtClose (tags : List Tag) : Prop :=
  ∀ tag ∈ tags.head?, ∃ name, Marker.ofInner tag.inner = .closer name

theorem atClose_nil : AtClose [] := by
  simp [AtClose]

theorem atClose_cons {closer : Tag} {name : List Char}
    (closes : Marker.ofInner closer.inner = .closer name) (more : List Tag) :
    AtClose (closer :: more) := by
  simp [AtClose, closes]

/-- Tags that stand for different markers differ. -/
theorem cons_ne_of_ofInner_ne {first second : Tag} {marker other : Marker}
    (isMarker : Marker.ofInner first.inner = marker) (isOther : Marker.ofInner second.inner = other)
    (differ : marker ≠ other) (tags more : List Tag) : first :: tags ≠ second :: more := by
  rintro same
  obtain ⟨rfl, -⟩ := List.cons.inj same
  exact differ (isMarker.symm.trans isOther)

/-- A tag that closes nothing does not start what is at its end. -/
theorem not_atClose_of_eq_cons {tag : Tag} {marker : Marker} {tags more : List Tag}
    (isMarker : Marker.ofInner tag.inner = marker) (differ : ∀ name, marker ≠ .closer name)
    (starts : tags = tag :: more) : ¬ AtClose tags := by
  intro atClose
  obtain ⟨name, closes⟩ := atClose tag (by simp [starts])
  exact differ name (isMarker.symm.trans closes)

/-- A tree ends where its sections are closed, whatever closes a section around it. -/
theorem eq_of_tags_append_eq (first second : SectionTree) {after more : List Tag}
    (atClose : AtClose after) (atClose' : AtClose more)
    (same : first.tags ++ after = second.tags ++ more) : first = second ∧ after = more := by
  induction first generalizing second after more with
  | done =>
    cases second with
    | done => exact ⟨rfl, same⟩
    | value tag isVariable rest =>
      exact absurd atClose (not_atClose_of_eq_cons isVariable (by simp) same)
    | comment tag isComment rest =>
      exact absurd atClose (not_atClose_of_eq_cons isComment (by simp) same)
    | enclosed opener inverted name opens body closer closes rest =>
      exact absurd atClose (not_atClose_of_eq_cons opens (by simp) same)
  | value tag isVariable rest ih =>
    cases second with
    | done => exact absurd atClose' (not_atClose_of_eq_cons isVariable (by simp) same.symm)
    | value other isVariable' rest' =>
      obtain ⟨rfl, follows⟩ := List.cons.inj same
      obtain ⟨rfl, rfl⟩ := ih rest' atClose atClose' follows
      exact ⟨rfl, rfl⟩
    | comment other isComment rest' =>
      exact absurd same (cons_ne_of_ofInner_ne isVariable isComment (by simp) _ _)
    | enclosed opener inverted name opens body closer closes rest' =>
      exact absurd same (cons_ne_of_ofInner_ne isVariable opens (by simp) _ _)
  | comment tag isComment rest ih =>
    cases second with
    | done => exact absurd atClose' (not_atClose_of_eq_cons isComment (by simp) same.symm)
    | value other isVariable rest' =>
      exact absurd same (cons_ne_of_ofInner_ne isComment isVariable (by simp) _ _)
    | comment other isComment' rest' =>
      obtain ⟨rfl, follows⟩ := List.cons.inj same
      obtain ⟨rfl, rfl⟩ := ih rest' atClose atClose' follows
      exact ⟨rfl, rfl⟩
    | enclosed opener inverted name opens body closer closes rest' =>
      exact absurd same (cons_ne_of_ofInner_ne isComment opens (by simp) _ _)
  | enclosed opener inverted name opens body closer closes rest ihBody ihRest =>
    cases second with
    | done => exact absurd atClose' (not_atClose_of_eq_cons opens (by simp) same.symm)
    | value other isVariable rest' =>
      exact absurd same (cons_ne_of_ofInner_ne opens isVariable (by simp) _ _)
    | comment other isComment rest' =>
      exact absurd same (cons_ne_of_ofInner_ne opens isComment (by simp) _ _)
    | enclosed opener' inverted' name' opens' body' closer' closes' rest' =>
      simp only [tags_enclosed, List.cons_append, List.append_assoc] at same
      obtain ⟨rfl, inside⟩ := List.cons.inj same
      obtain ⟨rfl, rfl⟩ : inverted = inverted' ∧ name = name' := by
        rw [opens] at opens'
        simpa using opens'
      -- The body ends at its own closing marker, and the rest where the whole does.
      obtain ⟨rfl, closed⟩ := ihBody body' (atClose_cons closes _) (atClose_cons closes' _) inside
      obtain ⟨rfl, follows⟩ := List.cons.inj closed
      obtain ⟨rfl, rfl⟩ := ihRest rest' atClose atClose' follows
      exact ⟨rfl, rfl⟩

/-- **Tags can be grouped in one way.** -/
theorem tags_injective {first second : SectionTree} (same : first.tags = second.tags) :
    first = second :=
  (eq_of_tags_append_eq first second atClose_nil atClose_nil (by simp [same])).1

end SectionTree

/-! ### Nested words -/

/-- A marker's part in the nesting: it opens or closes a section of some name. -/
inductive Bracket where
  | opens (name : List Char)
  | closes (name : List Char)
  deriving DecidableEq, Repr

/-- A marker's part in the nesting, if it has one. -/
def Tag.bracket? (tag : Tag) : Option Bracket :=
  match Marker.ofInner tag.inner with
  | .opener _ name => some (.opens name)
  | .closer name => some (.closes name)
  | .variable | .comment | .unsupported => none

/-- Words in which each name that is closed is the one that was opened last and is still open, and
nothing is left open. -/
inductive Nested : List Bracket → Prop
  | nil : Nested []
  | wrap {inner rest : List Bracket} (name : List Char) (inside : Nested inner)
      (after : Nested rest) : Nested (.opens name :: inner ++ .closes name :: rest)

/-- The nesting that a tree shows. -/
theorem SectionTree.nested_tags (tree : SectionTree) :
    Nested (tree.tags.filterMap Tag.bracket?) := by
  induction tree with
  | done => exact .nil
  | value tag isVariable rest ih => simpa [Tag.bracket?, isVariable] using ih
  | comment tag isComment rest ih => simpa [Tag.bracket?, isComment] using ih
  | enclosed opener inverted name opens body closer closes rest ihBody ihRest =>
    simpa [Tag.bracket?, opens, closes] using Nested.wrap name ihBody ihRest

/-- No tag of a tree is one that templates must not have. -/
theorem SectionTree.supported (tree : SectionTree) :
    ∀ tag ∈ tree.tags, Marker.ofInner tag.inner ≠ .unsupported := by
  induction tree with
  | done => simp
  | value tag isVariable rest ih => simp_all
  | comment tag isComment rest ih => simp_all
  | enclosed opener inverted name opens body closer closes rest ihBody ihRest =>
    intro tag member
    simp only [tags_enclosed, List.mem_cons, List.mem_append] at member
    rcases member with rfl | inside | rfl | after
    · simp [opens]
    · exact ihBody tag inside
    · simp [closes]
    · exact ihRest tag after

/-- Tags that neither open nor close a section have a tree. -/
theorem SectionTree.exists_of_plain (tags : List Tag)
    (supported : ∀ tag ∈ tags, Marker.ofInner tag.inner ≠ .unsupported)
    (plain : ∀ tag ∈ tags, tag.bracket? = none) : ∃ tree : SectionTree, tree.tags = tags := by
  induction tags with
  | nil => exact ⟨done, rfl⟩
  | cons tag tags ih =>
    obtain ⟨rest, same⟩ := ih (fun other member => supported other (by simp [member]))
      fun other member => plain other (by simp [member])
    have here := plain tag (by simp)
    have kept := supported tag (by simp)
    cases marker : Marker.ofInner tag.inner with
    | «variable» => exact ⟨.value tag marker rest, by simp [same]⟩
    | comment => exact ⟨.comment tag marker rest, by simp [same]⟩
    | opener inverted name => simp [Tag.bracket?, marker] at here
    | closer name => simp [Tag.bracket?, marker] at here
    | unsupported => exact absurd marker kept

/-- A tag that opens a section is an opening marker. -/
theorem Tag.bracket?_eq_opens {tag : Tag} {name : List Char}
    (opens : tag.bracket? = some (.opens name)) :
    ∃ inverted, Marker.ofInner tag.inner = .opener inverted name := by
  unfold Tag.bracket? at opens
  split at opens <;> simp_all

/-- A tag that closes a section is a closing marker. -/
theorem Tag.bracket?_eq_closes {tag : Tag} {name : List Char}
    (closes : tag.bracket? = some (.closes name)) : Marker.ofInner tag.inner = .closer name := by
  unfold Tag.bracket? at closes
  split at closes <;> simp_all

/-- Supported tags whose markers are properly nested have a tree. -/
theorem SectionTree.exists_of_nested {word : List Bracket} (nested : Nested word) :
    ∀ tags : List Tag, (∀ tag ∈ tags, Marker.ofInner tag.inner ≠ .unsupported) →
      tags.filterMap Tag.bracket? = word → ∃ tree : SectionTree, tree.tags = tags := by
  induction nested with
  | nil =>
    intro tags supported none
    exact exists_of_plain tags supported (by simpa using none)
  | wrap name inside after ihInside ihAfter =>
    intro tags supported same
    -- The word splits the tags: some before the opening marker, some in the section, some after it.
    simp only [List.cons_append, List.filterMap_eq_cons_iff, List.filterMap_eq_append_iff] at same
    obtain ⟨before, opener, _, rfl, plain, opens, inner, _, rfl, innerWord, between, closer, rest,
      rfl, plain', closes, restWord⟩ := same
    obtain ⟨inverted, opens⟩ := Tag.bracket?_eq_opens opens
    have closes := Tag.bracket?_eq_closes closes
    obtain ⟨front, frontTags⟩ := exists_of_plain before
      (fun tag member => supported tag (by simp [member])) plain
    obtain ⟨body, bodyTags⟩ := ihInside (inner ++ between)
      (fun tag member => supported tag (by
        rcases List.mem_append.mp member with among | among <;> simp [among]))
      (by rw [List.filterMap_append, innerWord, List.filterMap_eq_nil_iff.mpr plain',
        List.append_nil])
    obtain ⟨back, backTags⟩ := ihAfter rest (fun tag member => supported tag (by simp [member]))
      restWord
    exact ⟨front.append (.enclosed opener inverted name opens body closer closes back),
      by simp [frontTags, bodyTags, backTags]⟩

/-- **Tags have a tree** exactly when all are supported and their markers are properly nested. -/
theorem exists_tree_iff_nested (tags : List Tag) :
    (∃ tree : SectionTree, tree.tags = tags) ↔
      (∀ tag ∈ tags, Marker.ofInner tag.inner ≠ .unsupported) ∧
        Nested (tags.filterMap Tag.bracket?) := by
  constructor
  · rintro ⟨tree, rfl⟩
    exact ⟨tree.supported, tree.nested_tags⟩
  · rintro ⟨supported, nested⟩
    exact SectionTree.exists_of_nested nested tags supported rfl

end CatalogPages.Markers
