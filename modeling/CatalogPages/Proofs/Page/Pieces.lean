/-
**A section tree in pieces of the engine's language.**

* `Loop`, `Shape`: what the markers of a section become: a loop with its assignments, or nothing;
* `SectionTree.pieces`: the pieces of a tree, whose text is the text of the tree;
* `parts_compiled`: the parts that the engine finds in what a template becomes.
-/

import CatalogPages.Proofs.Markers.Compilation
import CatalogPages.Proofs.Page.Scene
import CatalogPages.Proofs.Script.Parsing

namespace CatalogPages.Markers

open Script (Code Path Piece)

/-! ### Sections by their shape -/

/-- A loop, with the names that it gives to members of what it is at. -/
structure Loop where
  item : String
  source : Path
  bindings : List (String × String)

/-- The code that a loop starts with. -/
def Loop.codes (loop : Loop) : List Code :=
  .loop loop.item loop.source ::
    loop.bindings.map fun (name, member) => .assign name ⟨loop.item, some member⟩

/-- The loop over the categories. -/
def Loop.categories : Loop where
  item := "category"
  source := ⟨"categories", none⟩
  bindings := [("key", "key"), ("name", "key"), ("title", "title")]

/-- A loop over libraries. -/
def Loop.libraries (source : Path) : Loop where
  item := "library"
  source
  bindings := [("key", "key"), ("name", "name"), ("authors", "authors_formatted"),
    ("link", "documentation_link"), ("description", "description_clean")]

/-- All libraries, and those of the category that a loop is at. -/
def allLibraries : Path := ⟨"libraries", none⟩

def categoryLibraries : Path := ⟨"category", some "libraries"⟩

/-- What the markers of a section leave: a loop, nothing, or not even what stands between them. -/
inductive Shape where
  | loop (loop : Loop)
  | kept (ownsLine : Bool)
  | hidden

def Kind.shape (inCategory : Bool) : Kind → Shape
  | categorized => .loop .categories
  | alphabetic => .loop (.libraries allLibraries)
  | libraries => .loop (.libraries (if inCategory then categoryLibraries else allLibraries))
  | authors => .kept false
  | flag true => .kept true
  | flag false => .hidden

/-- The sections that become loops. Inside a category `libraries` stands for its own. -/
inductive Kind.Loops : (inCategory : Bool) → Kind → Loop → Prop
  | categorized (inCategory : Bool) : Loops inCategory .categorized .categories
  | alphabetic (inCategory : Bool) : Loops inCategory .alphabetic (.libraries allLibraries)
  | ofCategory : Loops true .libraries (.libraries categoryLibraries)
  | ofPage : Loops false .libraries (.libraries allLibraries)

theorem Kind.loops_of_shape {inCategory : Bool} {kind : Kind} {around : Loop}
    (isLoop : kind.shape inCategory = .loop around) : kind.Loops inCategory around := by
  cases kind with
  | categorized =>
    cases isLoop
    exact .categorized inCategory
  | alphabetic =>
    cases isLoop
    exact .alphabetic inCategory
  | libraries =>
    cases inCategory with
    | true =>
      cases isLoop
      exact .ofCategory
    | false =>
      cases isLoop
      exact .ofPage
  | authors => cases isLoop
  | flag visible => cases visible <;> cases isLoop

/-- The sections that leave what stands in them, and whether their markers own a line. -/
inductive Kind.Keeps : Kind → (ownsLine : Bool) → Prop
  | authors : Keeps .authors false
  | visible : Keeps (.flag true) true

theorem Kind.keeps_of_shape {inCategory ownsLine : Bool} {kind : Kind}
    (isKept : kind.shape inCategory = .kept ownsLine) : kind.Keeps ownsLine := by
  cases kind with
  | categorized | alphabetic | libraries => cases isKept
  | authors =>
    cases isKept
    exact .authors
  | flag visible =>
    cases visible with
    | true =>
      cases isKept
      exact .visible
    | false => cases isKept

theorem Kind.eq_of_hidden {inCategory : Bool} {kind : Kind}
    (isHidden : kind.shape inCategory = .hidden) : kind = .flag false := by
  cases kind with
  | categorized | alphabetic | libraries | authors => cases isHidden
  | flag visible =>
    cases visible with
    | true => cases isHidden
    | false => rfl

/-- The text after a marker. -/
def afterMarker (ownsLine : Bool) (text : List Char) : List Char :=
  if ownsLine then Text.skipLineBreak text else text

namespace Shape

/-- Whether a line break after a marker is dropped with it. -/
def ownsLine : Shape → Bool
  | loop _ | hidden => true
  | kept ownsLine => ownsLine

/-- What is left up to the closing marker. -/
def front (start : List Char) (body : List Piece) : Shape → List Piece
  | loop around =>
    around.codes.map .code ++ .text (afterMarker true start) :: (body ++ [.code .endLoop])
  | kept ownsLine => .text (afterMarker ownsLine start) :: body
  | hidden => []

/-- What is left of a section and the text after it. -/
def pieces (start : List Char) (body : List Piece) (after : List Char) (shape : Shape) :
    List Piece :=
  shape.front start body ++ [.text (afterMarker shape.ownsLine after)]

end Shape

/-- The pieces of a tree. -/
def SectionTree.pieces (rules : Rules) : (inCategory : Bool) → SectionTree → List Piece
  | _, .done => []
  | inCategory, .value tag _ rest =>
    .code (.output tag.inner) :: .text tag.following :: rest.pieces rules inCategory
  | inCategory, .comment tag _ rest =>
    .text (afterMarker true tag.following) :: rest.pieces rules inCategory
  | inCategory, .enclosed opener inverted name _ body closer _ rest =>
    match rules.kind? inverted name with
    | some kind =>
      (kind.shape inCategory).pieces opener.following
        (body.pieces rules (kind.inCategory inCategory)) closer.following ++
        rest.pieces rules inCategory
    | none => []

/-! ### Their text -/

theorem write_categories :
    categoryLoop = (Loop.categories.codes.map Piece.code).flatMap Piece.write := by
  rfl

theorem write_libraries :
    libraryLoop "libraries" =
      ((Loop.libraries allLibraries).codes.map Piece.code).flatMap Piece.write := by
  rfl

theorem write_categoryLibraries :
    libraryLoop "category.libraries" =
      ((Loop.libraries categoryLibraries).codes.map Piece.code).flatMap Piece.write := by
  rfl

theorem write_endLoop : endLoop = Code.endLoop.write := by
  rfl

namespace Shape

variable (start : List Char) (body : List Piece) (after : List Char)

theorem write_loop (around : Loop) :
    ((loop around).pieces start body after).flatMap Piece.write =
      (around.codes.map Piece.code).flatMap Piece.write ++ Text.skipLineBreak start ++
        body.flatMap Piece.write ++ endLoop ++ Text.skipLineBreak after := by
  simp [pieces, front, ownsLine, afterMarker, Piece.write, write_endLoop]

theorem write_kept (ownsLine : Bool) :
    ((kept ownsLine).pieces start body after).flatMap Piece.write =
      afterMarker ownsLine start ++ body.flatMap Piece.write ++ afterMarker ownsLine after := by
  simp [pieces, front, Shape.ownsLine, Piece.write]

theorem write_hidden :
    (hidden.pieces start body after).flatMap Piece.write = Text.skipLineBreak after := by
  simp [pieces, front, ownsLine, afterMarker, Piece.write]

end Shape

/-- What a section leaves, in pieces. -/
theorem Kind.text_eq_pieces (kind : Kind) (inCategory : Bool) (start : List Char)
    (body : List Piece) (after : List Char) :
    kind.text inCategory start (body.flatMap Piece.write) after =
      ((kind.shape inCategory).pieces start body after).flatMap Piece.write := by
  cases kind with
  | categorized => rw [shape, Shape.write_loop, ← write_categories, text]
  | alphabetic => rw [shape, Shape.write_loop, ← write_libraries, text]
  | libraries =>
    cases inCategory with
    | true =>
      rw [shape, if_pos rfl, Shape.write_loop, ← write_categoryLibraries]
      rfl
    | false =>
      rw [shape, if_neg Bool.false_ne_true, Shape.write_loop, ← write_libraries]
      rfl
  | authors => exact (Shape.write_kept start body after false).symm
  | flag visible =>
    cases visible with
    | true => exact (Shape.write_kept start body after true).symm
    | false => exact (Shape.write_hidden start body after).symm

/-- **The text of a tree is that of its pieces.** -/
theorem SectionTree.text_eq_pieces (rules : Rules) (tree : SectionTree) (inCategory : Bool) :
    tree.text rules inCategory = (tree.pieces rules inCategory).flatMap Piece.write := by
  induction tree generalizing inCategory with
  | done => rfl
  | value tag isVariable rest ih =>
    simp [text, pieces, ih, Piece.write, Code.write, Code.kind, Code.inner, Tag.text, opening,
      closing, Script.Delimiter.opening, Script.Delimiter.closing]
  | comment tag isComment rest ih => simp [text, pieces, ih, Piece.write, afterMarker]
  | enclosed opener inverted name opens body closer closes rest ihBody ihRest =>
    rw [text, pieces]
    cases rules.kind? inverted name with
    | none => rfl
    | some kind =>
      simp only [ihBody, ihRest, kind.text_eq_pieces, List.flatMap_append]

/-! ### Where their texts come from -/

/-- A text of pieces is one of some texts, or what is left of it after a marker. -/
def ComesFrom (texts : List (List Char)) (pieces : List Piece) : Prop :=
  ∀ text, .text text ∈ pieces → ∃ whole ∈ texts, ∃ ownsLine, text = afterMarker ownsLine whole

theorem ComesFrom.mono {texts more : List (List Char)} {pieces : List Piece}
    (comes : ComesFrom texts pieces) (all : ∀ text ∈ texts, text ∈ more) :
    ComesFrom more pieces := by
  intro text member
  obtain ⟨whole, among, isText⟩ := comes text member
  exact ⟨whole, all whole among, isText⟩

theorem ComesFrom.append {texts : List (List Char)} {first second : List Piece}
    (comes : ComesFrom texts first) (comes' : ComesFrom texts second) :
    ComesFrom texts (first ++ second) := by
  intro text member
  rcases List.mem_append.mp member with member | member
  · exact comes text member
  · exact comes' text member

theorem ComesFrom.cons {texts : List (List Char)} {pieces : List Piece} {whole : List Char}
    (comes : ComesFrom texts pieces) (among : whole ∈ texts) (ownsLine : Bool) :
    ComesFrom texts (.text (afterMarker ownsLine whole) :: pieces) := by
  intro text member
  rcases List.mem_cons.mp member with same | member
  · cases same
    exact ⟨whole, among, ownsLine, rfl⟩
  · exact comes text member

theorem comesFrom_codes (texts : List (List Char)) (codes : List Code) :
    ComesFrom texts (codes.map .code) := by
  intro text member
  simp at member

theorem comesFrom_nil (texts : List (List Char)) : ComesFrom texts [] :=
  comesFrom_codes texts []

/-- The last text may be left out on both sides. -/
theorem ComesFrom.cons_dropLast {texts : List (List Char)} {pieces : List Piece}
    (comes : ComesFrom texts.dropLast pieces.dropLast) (ends : texts = [] → pieces = [])
    (whole : List Char) (ownsLine : Bool) :
    ComesFrom (whole :: texts).dropLast
      (.text (afterMarker ownsLine whole) :: pieces).dropLast := by
  cases pieces with
  | nil => exact comesFrom_nil _
  | cons piece pieces =>
    cases texts with
    | nil => cases ends rfl
    | cons text texts =>
      rw [List.dropLast_cons_cons, List.dropLast_cons_cons]
      exact (comes.mono fun _ member => List.mem_cons_of_mem _ member).cons List.mem_cons_self _

theorem Shape.comesFrom_front {texts : List (List Char)} {start : List Char} {body : List Piece}
    (comes : ComesFrom texts body) (among : start ∈ texts) (shape : Shape) :
    ComesFrom texts (shape.front start body) := by
  cases shape with
  | loop around =>
    exact (comesFrom_codes _ _).append ((comes.append (comesFrom_codes _ [.endLoop])).cons among _)
  | kept ownsLine => exact comes.cons among _
  | hidden => exact comesFrom_nil _

namespace SectionTree

/-- The texts after a tree's tags. -/
def followings (tree : SectionTree) : List (List Char) :=
  tree.tags.map Tag.following

theorem pieces_of_followings_nil (rules : Rules) (inCategory : Bool) (tree : SectionTree)
    (ends : tree.followings = []) : tree.pieces rules inCategory = [] := by
  cases tree with
  | done => rfl
  | value | comment | enclosed => simp [followings] at ends

theorem comesFrom (rules : Rules) (tree : SectionTree) (inCategory : Bool) :
    ComesFrom tree.followings (tree.pieces rules inCategory) := by
  induction tree generalizing inCategory with
  | done => exact comesFrom_nil _
  | value tag isVariable rest ih =>
    have texts := (ih inCategory).mono fun _ => List.mem_cons_of_mem tag.following
    exact (comesFrom_codes _ [.output tag.inner]).append (texts.cons List.mem_cons_self false)
  | comment tag isComment rest ih =>
    have texts := (ih inCategory).mono fun _ => List.mem_cons_of_mem tag.following
    exact texts.cons List.mem_cons_self true
  | enclosed opener inverted name opens body closer closes rest ihBody ihRest =>
    rw [pieces]
    cases rules.kind? inverted name with
    | none => exact comesFrom_nil _
    | some kind =>
      have texts : followings (enclosed opener inverted name opens body closer closes rest) =
          (opener.following :: body.followings) ++ closer.following :: rest.followings := by
        simp [followings]
      simp only [texts, Shape.pieces, List.append_assoc]
      have inside := (ihBody (kind.inCategory inCategory)).mono fun _ =>
        List.mem_cons_of_mem opener.following
      have front := Shape.comesFrom_front inside List.mem_cons_self (kind.shape inCategory)
      have after := (ihRest inCategory).mono fun _ => List.mem_cons_of_mem closer.following
      exact (front.mono fun _ => List.mem_append_left _).append
        ((after.cons List.mem_cons_self _).mono fun _ => List.mem_append_right _)

/-- The last text after a tag is the only one that can be the last piece. -/
theorem comesFrom_dropLast (rules : Rules) (tree : SectionTree) (inCategory : Bool) :
    ComesFrom tree.followings.dropLast (tree.pieces rules inCategory).dropLast := by
  induction tree generalizing inCategory with
  | done => exact comesFrom_nil _
  | value tag isVariable rest ih =>
    rw [pieces, List.dropLast_cons_cons]
    have texts := (ih inCategory).cons_dropLast (pieces_of_followings_nil rules inCategory rest)
      tag.following false
    exact (comesFrom_codes _ [.output tag.inner]).append texts
  | comment tag isComment rest ih =>
    exact (ih inCategory).cons_dropLast (pieces_of_followings_nil rules inCategory rest) _ true
  | enclosed opener inverted name opens body closer closes rest ihBody ihRest =>
    rw [pieces]
    cases rules.kind? inverted name with
    | none => exact comesFrom_nil _
    | some kind =>
      have after := (ihRest inCategory).cons_dropLast
        (pieces_of_followings_nil rules inCategory rest) closer.following
        (kind.shape inCategory).ownsLine
      have texts : followings (enclosed opener inverted name opens body closer closes rest) =
          (opener.following :: body.followings) ++ closer.following :: rest.followings := by
        simp [followings]
      simp only [texts, Shape.pieces, List.append_assoc, List.singleton_append]
      rw [List.dropLast_append_of_ne_nil (List.cons_ne_nil _ _),
        List.dropLast_append_of_ne_nil (List.cons_ne_nil _ _)]
      have inside := (body.comesFrom rules (kind.inCategory inCategory)).mono fun _ =>
        List.mem_cons_of_mem opener.following
      have front := Shape.comesFrom_front inside List.mem_cons_self (kind.shape inCategory)
      exact (front.mono fun _ => List.mem_append_left _).append
        (after.mono fun _ => List.mem_append_right _)

end SectionTree

/-- **Where the texts of a template's pieces come from**, and those of all pieces but the last. -/
theorem SectionTree.comesFrom_texts (rules : Rules) (tree : SectionTree) {parts : Cut}
    (same : tree.tags = parts.tags) :
    ComesFrom parts.texts (.text parts.lead :: tree.pieces rules false) ∧
      ComesFrom parts.texts.dropLast (.text parts.lead :: tree.pieces rules false).dropLast := by
  have texts : parts.texts = parts.lead :: tree.followings := by
    rw [Cut.texts, ← same, followings]
  rw [texts]
  have whole := (tree.comesFrom rules false).mono fun _ => List.mem_cons_of_mem parts.lead
  exact ⟨whole.cons List.mem_cons_self false, (tree.comesFrom_dropLast rules false).cons_dropLast
    (tree.pieces_of_followings_nil rules false) parts.lead false⟩

/-! ### What the engine finds -/

theorem Kind.named_loop {inCategory : Bool} {kind : Kind} {around : Loop}
    (isLoop : kind.shape inCategory = .loop around) : ∀ code ∈ around.codes, code.Named := by
  cases kind.loops_of_shape isLoop <;> decide

/-- The names that a tree shows can be read. -/
def SectionTree.Named (tree : SectionTree) : Prop :=
  ∀ tag ∈ tree.tags, Marker.ofInner tag.inner = .variable → Script.IsWord tag.inner

/-- **What holds of the codes of a tree**: of the variables that it shows, of the codes that its
loops start with, and of their ends. -/
theorem SectionTree.codes_pieces {holds : Code → Prop} (rules : Rules)
    (ofLoop : ∀ {inCategory : Bool} {kind : Kind} {around : Loop},
      kind.shape inCategory = .loop around → ∀ code ∈ around.codes, holds code)
    (ofEnd : holds .endLoop) (tree : SectionTree)
    (ofValue : ∀ tag ∈ tree.tags, Marker.ofInner tag.inner = .variable →
      holds (.output tag.inner)) (inCategory : Bool) :
    ∀ code, .code code ∈ tree.pieces rules inCategory → holds code := by
  induction tree generalizing inCategory with
  | done => exact fun code member => nomatch member
  | value tag isVariable rest ih =>
    intro code member
    simp only [pieces, List.mem_cons, Piece.code.injEq, reduceCtorEq, false_or] at member
    rcases member with rfl | member
    · exact ofValue tag (by simp) isVariable
    · exact ih (fun other among => ofValue other (by simp [among])) inCategory code member
  | comment tag isComment rest ih =>
    intro code member
    simp only [pieces, List.mem_cons, reduceCtorEq, false_or] at member
    exact ih (fun other among => ofValue other (by simp [among])) inCategory code member
  | enclosed opener inverted name opens body closer closes rest ihBody ihRest =>
    intro code member
    rw [pieces] at member
    cases isKind : rules.kind? inverted name with
    | none => simp [isKind] at member
    | some kind =>
      have inside := ihBody (fun other among => ofValue other (by simp [among]))
        (kind.inCategory inCategory)
      have after := ihRest (fun other among => ofValue other (by simp [among])) inCategory
      simp only [isKind, Shape.pieces, List.mem_append, List.mem_singleton, reduceCtorEq,
        or_false] at member
      rcases member with front | member
      · cases isShape : kind.shape inCategory with
        | loop around =>
          simp only [isShape, Shape.front, List.mem_append, List.mem_map, Piece.code.injEq,
            exists_eq_right, List.mem_cons, reduceCtorEq, false_or, List.not_mem_nil,
            or_false] at front
          rcases front with member | member | rfl
          · exact ofLoop isShape code member
          · exact inside code member
          · exact ofEnd
        | kept ownsLine =>
          simp only [isShape, Shape.front, List.mem_cons, reduceCtorEq, false_or] at front
          exact inside code front
        | hidden => simp [isShape, Shape.front] at front
      · exact after code member

theorem SectionTree.named_pieces (rules : Rules) (tree : SectionTree) (named : tree.Named)
    (inCategory : Bool) :
    ∀ code, .code code ∈ tree.pieces rules inCategory → code.Named :=
  tree.codes_pieces rules (fun isLoop => Kind.named_loop isLoop) trivial named inCategory

theorem afterMarker_suffix (ownsLine : Bool) (text : List Char) :
    afterMarker ownsLine text <:+ text := by
  cases ownsLine with
  | true => exact Text.skipLineBreak_suffix text
  | false => exact List.suffix_rfl

/-- A line break left out makes no delimiter. -/
theorem plain_afterMarker {text : List Char} (plain : Script.Plain text) (ownsLine : Bool) :
    Script.Plain (afterMarker ownsLine text) :=
  fun kind inside => plain kind (inside.trans (afterMarker_suffix ownsLine text).isInfix)

theorem solid_afterMarker {text : List Char} (solid : Script.Solid text) (ownsLine : Bool) :
    Script.Solid (afterMarker ownsLine text) := by
  obtain ⟨front, same⟩ := afterMarker_suffix ownsLine text
  intro last
  refine solid ?_
  rw [← same, List.getLast?_append]
  exact Option.or_eq_some_iff.mpr (.inl last)

/-- A text before a tag does not reach into a delimiter. -/
theorem solid_of_cutsInto {line : Nat} {template : List Char} {parts : Cut}
    (cuts : CutsInto line template parts) : ∀ text ∈ parts.texts.dropLast, Script.Solid text := by
  intro text member last
  obtain ⟨front, rfl⟩ := List.getLast?_eq_some_iff.mp last
  exact cuts.not_infix _ member ⟨front, [], by simp [opening]⟩

/-- **The engine finds the pieces of an accepted template** in what the template becomes. -/
theorem parts_text {template : List Char} {rules : Rules} {tree : SectionTree}
    (same : tree.tags = (cut template).tags) (named : tree.Named)
    (plain : ∀ text ∈ (cut template).texts, Script.Plain text) :
    Script.parts ((cut template).lead ++ tree.text rules false) =
      Script.assemble (cut template).lead (tree.pieces rules false) := by
  have solid := solid_of_cutsInto (cutsInto_cut template)
  obtain ⟨whole, front⟩ := tree.comesFrom_texts rules same
  have tidy : Script.Tidy (.text (cut template).lead :: tree.pieces rules false) := by
    refine ⟨fun text member => ?_, fun text member => ?_, fun code member => ?_⟩
    · obtain ⟨source, among, ownsLine, rfl⟩ := whole text member
      exact plain_afterMarker (plain source among) ownsLine
    · obtain ⟨source, among, ownsLine, rfl⟩ := front text member
      exact solid_afterMarker (solid source among) ownsLine
    · exact tree.named_pieces rules named false code (by simpa using member)
  have parts := Script.parts_write tidy
  rwa [List.flatMap_cons, Piece.write, ← tree.text_eq_pieces] at parts

end CatalogPages.Markers
