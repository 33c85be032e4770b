/-
**The text that a section tree stands for.**

`SectionTree.text` says what a template becomes by its section tree alone: a section's loop is
opened and closed around its body, and a hidden section leaves nothing behind.

* `Rules.kind?`: what a section is, by its name;
* `compileTags_cons`, and one lemma for each kind of tag: what the compiler makes of the first tag;
* `compileTags_tags`: the compiler writes the text of a tree wherever no open section hides it, and
  goes on with the tags after it.
-/

import CatalogPages.Markers.Compiler
import CatalogPages.Proofs.Markers.SectionTree

namespace CatalogPages.Markers

/-! ### The denotation -/

/-- What a section makes of what stands in it. -/
inductive Kind where
  | categorized
  | alphabetic
  | libraries
  | authors
  /-- Keeps it or drops it. -/
  | flag (visible : Bool)
  deriving DecidableEq, Repr

/-- The sections that every template can have. -/
def Kind.standard : List (String × Kind) := [
  ("categorized", .categorized), ("alphabetic", .alphabetic), ("libraries", .libraries),
  ("authors", .authors)]

/-- What the section of an opening marker is. A flag goes before the other sections, and only a flag
has an opposite. -/
def Rules.kind? (rules : Rules) (inverted : Bool) (name : List Char) : Option Kind :=
  match rules.flags.lookup (String.ofList name) with
  | some value => some (.flag (value != inverted))
  | none => if inverted then none else Kind.standard.lookup (String.ofList name)

/-- What a section makes of its body and of the texts after its two markers. Its loop stands around
the body, and a line break after a marker is dropped; `authors` leaves all as it is, and a hidden
section leaves only the text after it. -/
def Kind.text (inCategory : Bool) (start body after : List Char) : Kind → List Char
  | categorized =>
    categoryLoop ++ Text.skipLineBreak start ++ body ++ endLoop ++ Text.skipLineBreak after
  | alphabetic =>
    libraryLoop "libraries" ++ Text.skipLineBreak start ++ body ++ endLoop ++
      Text.skipLineBreak after
  | libraries =>
    libraryLoop (if inCategory then "category.libraries" else "libraries") ++
      Text.skipLineBreak start ++ body ++ endLoop ++ Text.skipLineBreak after
  | authors => start ++ body ++ after
  | flag true => Text.skipLineBreak start ++ body ++ Text.skipLineBreak after
  | flag false => Text.skipLineBreak after

/-- Whether a section goes through the categories, or one around it does. -/
def Kind.inCategory (around : Bool) : Kind → Bool
  | categorized => true
  | _ => around

/-- What a tree becomes; `inCategory` tells whether a section around it goes through the
categories. -/
def SectionTree.text (rules : Rules) : (inCategory : Bool) → SectionTree → List Char
  | _, .done => []
  | inCategory, .value tag _ rest => tag.text ++ tag.following ++ rest.text rules inCategory
  | inCategory, .comment tag _ rest =>
    Text.skipLineBreak tag.following ++ rest.text rules inCategory
  | inCategory, .enclosed opener inverted name _ body closer _ rest =>
    match rules.kind? inverted name with
    | some kind =>
      kind.text inCategory opener.following (body.text rules (kind.inCategory inCategory))
        closer.following ++ rest.text rules inCategory
    | none => []

/-! ### Sections by their kind -/

/-- The section of a kind inside the open sections, by the name of its marker. -/
def Kind.toSection (stack : List Section) (name : List Char) : Kind → Section
  | categorized => .categorized
  | alphabetic => .alphabetic
  | libraries => .libraries (stack.contains .categorized)
  | authors => .authors
  | flag visible => .flag name visible

/-- A name as a list of characters is a word exactly when its text is. -/
theorem eq_toList_iff (name : List Char) (word : String) :
    name = word.toList ↔ String.ofList name = word := by
  rw [← String.toList_inj, String.toList_ofList]

/-- The section of a marker is that of its kind. -/
theorem Rules.section?_eq (rules : Rules) (stack : List Section) (inverted : Bool)
    (name : List Char) :
    rules.section? stack inverted name =
      (rules.kind? inverted name).map (Kind.toSection stack name) := by
  simp only [Rules.section?, Rules.kind?, eq_toList_iff]
  cases rules.flags.lookup (String.ofList name) with
  | some value => rfl
  | none =>
    generalize String.ofList name = word
    cases inverted with
    | true => rfl
    | false =>
      by_cases first : word = "categorized"
      · subst first
        rfl
      by_cases second : word = "alphabetic"
      · subst second
        rfl
      by_cases third : word = "libraries"
      · subst third
        rfl
      by_cases fourth : word = "authors"
      · subst fourth
        rfl
      simp [Kind.standard, List.lookup_cons, first, second, third, fourth,
        beq_false_of_ne first, beq_false_of_ne second, beq_false_of_ne third,
        beq_false_of_ne fourth]

/-- A section has the name of its marker. -/
theorem Rules.name_toSection {rules : Rules} {inverted : Bool} {name : List Char} {kind : Kind}
    (known : rules.kind? inverted name = some kind) (stack : List Section) :
    (kind.toSection stack name).name = name := by
  suffices standard : Kind.standard.lookup (String.ofList name) = some kind →
      (kind.toSection stack name).name = name by
    unfold Rules.kind? at known
    split at known
    · cases known
      rfl
    · cases inverted with
      | true => simp at known
      | false => exact standard known
  intro found
  obtain ⟨_, _, split, -⟩ := List.lookup_eq_some_iff.mp found
  have member : (String.ofList name, kind) ∈ Kind.standard := by simp [split]
  simp only [Kind.standard, List.mem_cons, Prod.mk.injEq, List.not_mem_nil, or_false] at member
  rcases member with ⟨word, rfl⟩ | ⟨word, rfl⟩ | ⟨word, rfl⟩ | ⟨word, rfl⟩ <;>
    exact ((eq_toList_iff name _).mpr word).symm

/-! ### One tag at a time -/

@[simp] theorem shown_nil (stack : List Section) : shown stack [] = [] := by
  simp [shown]

@[simp] theorem shown_append (stack : List Section) (first second : List Char) :
    shown stack (first ++ second) = shown stack first ++ shown stack second := by
  unfold shown
  split <;> simp

@[simp] theorem shown_empty (text : List Char) : shown [] text = text := rfl

/-- Inside a section text is shown if the section does not hide it and it is shown around it. -/
theorem shown_cons (entry : Section) (stack : List Section) (text : List Char) :
    shown (entry :: stack) text = if entry.hides then [] else shown stack text := by
  unfold shown isHidden
  cases hides : entry.hides <;> simp [hides]

section Steps

variable (rules : Rules) {tag : Tag} (stack : List Section) (tags : List Tag)
  (unended : Option OpenTag)

/-- What the first of some tags becomes, before what becomes of the others. -/
theorem compileTags_cons (tag : Tag) :
    rules.compileTags stack (tag :: tags) unended =
      match Marker.ofInner tag.inner with
      | .variable => do
        let rest ← rules.compileTags stack tags unended
        return shown stack (tag.text ++ tag.following) ++ rest
      | .comment => do
        let rest ← rules.compileTags stack tags unended
        return shown stack (Text.skipLineBreak tag.following) ++ rest
      | .opener inverted name =>
        match rules.section? stack inverted name with
        | none => .error (.unknownSection tag.text tag.line)
        | some entry => do
          let rest ← rules.compileTags (entry :: stack) tags unended
          return shown stack entry.openText ++
            shown (entry :: stack) (entry.trimFollowing tag.following) ++ rest
      | .closer name =>
        match stack with
        | [] => .error (.nothingOpen tag.text tag.line)
        | entry :: stack =>
          if entry.name = name then do
            let rest ← rules.compileTags stack tags unended
            return shown stack (entry.closeText ++ entry.trimFollowing tag.following) ++ rest
          else .error (.mismatch entry.name tag.text tag.line)
      | .unsupported => .error (.unsupported tag.text tag.line) := by
  cases stack <;> rfl

theorem compileTags_value (isVariable : Marker.ofInner tag.inner = .variable) :
    rules.compileTags stack (tag :: tags) unended =
      (rules.compileTags stack tags unended).map
        (shown stack (tag.text ++ tag.following) ++ ·) := by
  simp only [compileTags_cons, isVariable]
  cases rules.compileTags stack tags unended <;> rfl

theorem compileTags_comment (isComment : Marker.ofInner tag.inner = .comment) :
    rules.compileTags stack (tag :: tags) unended =
      (rules.compileTags stack tags unended).map
        (shown stack (Text.skipLineBreak tag.following) ++ ·) := by
  simp only [compileTags_cons, isComment]
  cases rules.compileTags stack tags unended <;> rfl

theorem compileTags_unsupported (isUnsupported : Marker.ofInner tag.inner = .unsupported) :
    rules.compileTags stack (tag :: tags) unended = .error (.unsupported tag.text tag.line) := by
  simp only [compileTags_cons, isUnsupported]

theorem compileTags_opener {inverted : Bool} {name : List Char} {kind : Kind}
    (opens : Marker.ofInner tag.inner = .opener inverted name)
    (known : rules.kind? inverted name = some kind) :
    rules.compileTags stack (tag :: tags) unended =
      (rules.compileTags (kind.toSection stack name :: stack) tags unended).map
        (shown stack (kind.toSection stack name).openText ++
          shown (kind.toSection stack name :: stack)
            ((kind.toSection stack name).trimFollowing tag.following) ++ ·) := by
  simp only [compileTags_cons, opens, Rules.section?_eq, known, Option.map_some]
  cases rules.compileTags (kind.toSection stack name :: stack) tags unended <;> rfl

theorem compileTags_opener_unknown {inverted : Bool} {name : List Char}
    (opens : Marker.ofInner tag.inner = .opener inverted name)
    (unknown : rules.kind? inverted name = none) :
    rules.compileTags stack (tag :: tags) unended =
      .error (.unknownSection tag.text tag.line) := by
  simp only [compileTags_cons, opens, Rules.section?_eq, unknown, Option.map_none]

theorem compileTags_closer_nothing {name : List Char}
    (closes : Marker.ofInner tag.inner = .closer name) :
    rules.compileTags [] (tag :: tags) unended = .error (.nothingOpen tag.text tag.line) := by
  simp only [compileTags_cons, closes]

theorem compileTags_closer {entry : Section} {name : List Char}
    (closes : Marker.ofInner tag.inner = .closer name) (named : entry.name = name) :
    rules.compileTags (entry :: stack) (tag :: tags) unended =
      (rules.compileTags stack tags unended).map
        (shown stack (entry.closeText ++ entry.trimFollowing tag.following) ++ ·) := by
  simp only [compileTags_cons, closes, named, if_true]
  cases rules.compileTags stack tags unended <;> rfl

theorem compileTags_closer_other {entry : Section} {name : List Char}
    (closes : Marker.ofInner tag.inner = .closer name) (other : entry.name ≠ name) :
    rules.compileTags (entry :: stack) (tag :: tags) unended =
      .error (.mismatch entry.name tag.text tag.line) := by
  simp only [compileTags_cons, closes, if_neg other]

end Steps

/-! ### Whole trees -/

/-- Every section that tags open is one that a template can have. -/
def Rules.Knows (rules : Rules) (tags : List Tag) : Prop :=
  ∀ tag ∈ tags, ∀ inverted name, Marker.ofInner tag.inner = .opener inverted name →
    (rules.kind? inverted name).isSome

/-- The text of a section, put together as the compiler meets its parts. -/
theorem shown_text (stack : List Section) (name start body after : List Char) (kind : Kind) :
    shown stack (kind.toSection stack name).openText ++
        shown (kind.toSection stack name :: stack)
          ((kind.toSection stack name).trimFollowing start) ++
        shown (kind.toSection stack name :: stack) body ++
        shown stack ((kind.toSection stack name).closeText ++
          (kind.toSection stack name).trimFollowing after) =
      shown stack (kind.text (stack.contains .categorized) start body after) := by
  cases kind with
  | categorized =>
    simp [Kind.toSection, Kind.text, shown_cons, Section.hides, Section.openText,
      Section.closeText, Section.trimFollowing, Section.ownsLine]
  | alphabetic =>
    simp [Kind.toSection, Kind.text, shown_cons, Section.hides, Section.openText,
      Section.closeText, Section.trimFollowing, Section.ownsLine]
  | libraries =>
    cases inside : stack.contains .categorized <;>
      simp [Kind.toSection, Kind.text, shown_cons, Section.hides, Section.openText,
        Section.closeText, Section.trimFollowing, Section.ownsLine, -List.contains_eq_mem, inside]
  | authors =>
    simp [Kind.toSection, Kind.text, shown_cons, Section.hides, Section.openText,
      Section.closeText, Section.trimFollowing, Section.ownsLine]
  | flag visible =>
    cases visible <;>
      simp [Kind.toSection, Kind.text, shown_cons, Section.hides, Section.openText,
        Section.closeText, Section.trimFollowing, Section.ownsLine]

/-- Only a section through the categories changes what `libraries` stands for. -/
theorem contains_toSection_cons (kind : Kind) (name : List Char) (stack : List Section) :
    (kind.toSection stack name :: stack).contains .categorized =
      kind.inCategory (stack.contains .categorized) := by
  cases kind <;> simp [Kind.toSection, Kind.inCategory]

theorem Rules.Knows.mono {rules : Rules} {tags more : List Tag} (known : rules.Knows more)
    (all : ∀ tag ∈ tags, tag ∈ more) : rules.Knows tags :=
  fun tag member => known tag (all tag member)

/-- **The compiler writes a tree's text** wherever it is shown, and goes on after its tags. -/
theorem compileTags_tags (rules : Rules) (tree : SectionTree) (known : rules.Knows tree.tags)
    (stack : List Section) (more : List Tag) (unended : Option OpenTag) :
    rules.compileTags stack (tree.tags ++ more) unended =
      (rules.compileTags stack more unended).map
        (shown stack (tree.text rules (stack.contains .categorized)) ++ ·) := by
  induction tree generalizing stack more with
  | done =>
    show rules.compileTags stack more unended = _
    cases rules.compileTags stack more unended <;> simp [SectionTree.text, Except.map]
  | value tag isVariable rest ih =>
    rw [SectionTree.tags_value, List.cons_append, compileTags_value _ _ _ _ isVariable,
      ih (known.mono (by simp +contextual))]
    cases rules.compileTags stack more unended <;> simp [SectionTree.text, Except.map]
  | comment tag isComment rest ih =>
    rw [SectionTree.tags_comment, List.cons_append, compileTags_comment _ _ _ _ isComment,
      ih (known.mono (by simp +contextual))]
    cases rules.compileTags stack more unended <;> simp [SectionTree.text, Except.map]
  | enclosed opener inverted name opens body closer closes rest ihBody ihRest =>
    obtain ⟨kind, isKind⟩ :=
      Option.isSome_iff_exists.mp (known opener (by simp) inverted name opens)
    rw [SectionTree.tags_enclosed, List.cons_append, List.append_assoc, List.cons_append,
      compileTags_opener _ _ _ _ opens isKind, ihBody (known.mono (by simp +contextual)),
      compileTags_closer _ _ _ _ closes (Rules.name_toSection isKind stack),
      ihRest (known.mono (by simp +contextual)), contains_toSection_cons]
    cases rules.compileTags stack more unended with
    | error fault => rfl
    | ok text =>
      simp only [Except.map, SectionTree.text, isKind, shown_append stack (kind.text _ _ _ _),
        ← shown_text stack name opener.following _ closer.following kind, List.append_assoc]

end CatalogPages.Markers
