/-
**What has been compiled stays as it is.**

A template becomes texts, variables and statements of the engine. No text reaches into the braces of
a tag, so that texts make no tag where they meet, whatever stood between them: the tags of what a
template has become are its own variables.

* `Settled`: a template whose tags are all variables, which becomes itself (`Settled.compile_eq`);
* `Lasting`: pieces that are cut again where they were put together (`Lasting.cutsInto`);
* `SectionTree.values`: the variables that no section hides;
* `compile_compile`: what a template has become is settled, and has these variables.
-/

import CatalogPages.Proofs.Page.Pieces

namespace CatalogPages.Markers

open Script (Code Piece Solid)

/-! ### Templates without markers -/

/-- A template in which every tag has an end and is a variable. -/
structure Settled (template : List Char) : Prop where
  ended : (cut template).unended = none
  values : ∀ tag ∈ (cut template).tags, Marker.ofInner tag.inner = .variable

theorem compileTags_values (rules : Rules) {tags : List Tag}
    (values : ∀ tag ∈ tags, Marker.ofInner tag.inner = .variable) :
    rules.compileTags [] tags none = .ok (tags.flatMap fun tag => tag.text ++ tag.following) := by
  induction tags with
  | nil => rfl
  | cons tag tags ih =>
    rw [compileTags_value _ _ _ _ (values tag List.mem_cons_self),
      ih fun other later => values other (List.mem_cons_of_mem _ later)]
    rfl

/-- **A settled template becomes itself**, whatever the flags are. -/
theorem Settled.compile_eq {template : List Char} (settled : Settled template) {rules : Rules}
    (unnamed : rules.charset = none) : rules.compile template = .ok template := by
  have compiled : rules.compileText template = .ok template := by
    have whole := text_cutFrom 1 template
    rw [Cut.text, show (cutFrom 1 template).unended = none from settled.ended,
      List.append_nil] at whole
    rw [compileText_eq, settled.ended, compileTags_values rules settled.values]
    exact congrArg Except.ok whole
  rw [Rules.compile, compiled]
  exact congrArg Except.ok (by rw [Rules.rename, unnamed])

/-! ### Pieces that are cut apart again -/

/-- Where texts meet there are no opening braces, if the first does not reach into them. -/
theorem not_infix_append {first second : List Char} (quiet : ¬ opening <:+: first)
    (solid : Solid first) (quiet' : ¬ opening <:+: second) : ¬ opening <:+: first ++ second := by
  intro inside
  obtain inside | inside | ⟨front, back, holds, holds', split, ends, -⟩ :=
    List.infix_append_iff_ne_nil.mp inside
  · exact quiet inside
  · exact quiet' inside
  · -- The braces would be divided one by one, and the first text would end in the first of them.
    obtain ⟨c, rest, rfl⟩ := List.exists_cons_of_ne_nil holds
    obtain ⟨rfl, second⟩ := List.cons.inj split
    cases rest with
    | nil =>
      obtain ⟨before, rfl⟩ := ends
      exact solid (List.getLast?_concat ..)
    | cons d rest =>
      obtain ⟨-, nothing⟩ := List.cons.inj second
      exact holds' (List.append_eq_nil_iff.mp nothing.symm).2

/-- The variable that a piece puts out, if it does. -/
def output? : Piece → Option (List Char)
  | .code (.output name) => some name
  | _ => none

@[simp] theorem output?_text (text : List Char) : output? (.text text) = none := rfl

/-- The texts between the variables of pieces, if some text is there already. Statements are part of
them. -/
def gaps (pending : List Char) : List Piece → List (List Char)
  | [] => [pending]
  | .code (.output _) :: pieces => pending :: gaps [] pieces
  | piece :: pieces => gaps (pending ++ piece.write) pieces

/-- Code that keeps its limits: a variable goes on to its own closing braces, and a statement has no
brace inside. -/
def Bounded : Code → Prop
  | .output name => ¬ closing <:+: name ++ ['\x7d']
  | code => '\x7b' ∉ code.inner

instance : (code : Code) → Decidable (Bounded code)
  | .output name => inferInstanceAs (Decidable ¬ closing <:+: name ++ ['\x7d'])
  | .loop item source => inferInstanceAs (Decidable ('\x7b' ∉ (Code.loop item source).inner))
  | .assign name source => inferInstanceAs (Decidable ('\x7b' ∉ (Code.assign name source).inner))
  | .endLoop => inferInstanceAs (Decidable ('\x7b' ∉ Code.endLoop.inner))

/-- Pieces in which no tag starts but those of their variables. The last text may reach into braces,
since there are none. -/
structure Lasting (pieces : List Piece) : Prop where
  quiet : ∀ text, .text text ∈ pieces → ¬ opening <:+: text
  solid : ∀ text, .text text ∈ pieces.dropLast → Solid text
  bounded : ∀ code, .code code ∈ pieces → Bounded code

theorem Lasting.tail {piece : Piece} {pieces : List Piece} (lasting : Lasting (piece :: pieces)) :
    Lasting pieces where
  quiet text member := lasting.quiet text (List.mem_cons_of_mem _ member)
  solid text member := lasting.solid text (Script.mem_dropLast_cons member)
  bounded code member := lasting.bounded code (List.mem_cons_of_mem _ member)

/-- A statement without braces of its own opens no tag. -/
theorem quiet_statement {code : Code} (isStatement : code.kind = .statement)
    (bare : '\x7b' ∉ code.inner) : ¬ opening <:+: code.write ∧ Solid code.write := by
  have written : code.write = '\x7b' :: '%' :: (code.inner ++ ['%', '\x7d']) := by
    rw [Code.write, isStatement]
    rfl
  constructor
  · intro inside
    rw [written, List.infix_cons_iff] at inside
    rcases inside with starts | inside
    · simp [opening] at starts
    · have member : '\x7b' ∈ '%' :: (code.inner ++ ['%', '\x7d']) :=
        inside.subset List.mem_cons_self
      simp [bare] at member
  · rw [written, Solid, List.getLast?_cons_cons, ← List.singleton_append, ← List.append_assoc,
      List.getLast?_append]
    simp

/-- **Pieces are cut where they were put together**: the tags behind a text are the variables. -/
theorem Lasting.cutsInto {pieces : List Piece} : ∀ {pending : List Char} {line : Nat},
    Lasting pieces → ¬ opening <:+: pending → (pieces ≠ [] → Solid pending) →
    ∃ parts, CutsInto line (pending ++ pieces.flatMap Piece.write) parts ∧
      parts.unended = none ∧ parts.texts = gaps pending pieces ∧
      parts.tags.map Tag.inner = pieces.filterMap output? := by
  induction pieces with
  | nil =>
    intro pending line _ quiet _
    rw [List.flatMap_nil, List.append_nil]
    exact ⟨_, .bare line quiet, rfl, rfl, rfl⟩
  | cons piece pieces ih =>
    intro pending line lasting quiet apart
    have solid : Solid pending := apart (List.cons_ne_nil _ _)
    -- A text or a statement joins the text before it; only a variable makes a tag.
    have joins (silent : output? piece = none)
        (joined : gaps pending (piece :: pieces) = gaps (pending ++ piece.write) pieces)
        (quiet' : ¬ opening <:+: piece.write) (solid' : pieces ≠ [] → Solid piece.write) :
        ∃ parts, CutsInto line (pending ++ (piece :: pieces).flatMap Piece.write) parts ∧
          parts.unended = none ∧ parts.texts = gaps pending (piece :: pieces) ∧
          parts.tags.map Tag.inner = (piece :: pieces).filterMap output? := by
      rw [List.flatMap_cons, ← List.append_assoc, List.filterMap_cons_none silent, joined]
      exact ih lasting.tail (not_infix_append quiet solid quiet')
        fun more => Script.solid_append solid (solid' more)
    cases piece with
    | text text =>
      refine joins rfl rfl (lasting.quiet text List.mem_cons_self) fun more => ?_
      obtain ⟨next, rest, rfl⟩ := List.exists_cons_of_ne_nil more
      exact lasting.solid text (by simp)
    | code code =>
      have bounded := lasting.bounded code List.mem_cons_self
      cases code with
      | loop | assign | endLoop =>
        obtain ⟨quiet', solid'⟩ := quiet_statement rfl bounded
        exact joins rfl rfl quiet' fun _ => solid'
      | output name =>
        have before : ¬ opening <:+: pending ++ opening.dropLast := by
          refine not_infix_append quiet solid fun inside => ?_
          simpa [opening] using inside.length_le
        have opens := Text.firstAt_of_not_infix
          (name ++ closing ++ pieces.flatMap Piece.write) before
        have closes := Text.firstAt_of_not_infix (pieces.flatMap Piece.write)
          bounded
        obtain ⟨parts, cuts, ended, texts, outputs⟩ :=
          @ih [] (line + Text.lineBreaks pending + Text.lineBreaks name) lasting.tail
            (by simp [opening]) fun _ => Script.solid_nil
        have written : pending ++ opening ++ (name ++ closing ++ pieces.flatMap Piece.write) =
            pending ++ (.code (.output name) :: pieces).flatMap Piece.write := by
          simp [Piece.write, Code.write, Code.kind, Code.inner, opening, closing,
            Script.Delimiter.opening, Script.Delimiter.closing]
        have tagged := CutsInto.tag opens closes cuts
        rw [written] at tagged
        exact ⟨_, tagged, ended, congrArg (pending :: ·) texts, congrArg (name :: ·) outputs⟩

/-! ### Section trees -/

/-- The variables of a tree that no section hides. -/
def SectionTree.values (rules : Rules) : SectionTree → List Tag
  | .done => []
  | .value tag _ rest => tag :: rest.values rules
  | .comment _ _ rest => rest.values rules
  | .enclosed _ inverted name _ body _ _ rest =>
    (if rules.kind? inverted name = some (.flag false) then [] else body.values rules) ++
      rest.values rules

/-- Only a hidden section keeps back what its body puts out. -/
theorem Kind.outputs (kind : Kind) (inCategory : Bool) (start : List Char) (body : List Piece)
    (after : List Char) :
    ((kind.shape inCategory).pieces start body after).filterMap output? =
      if kind = .flag false then [] else body.filterMap output? := by
  have silent (around : Loop) : (around.codes.map Piece.code).filterMap output? = [] := by
    rw [Loop.codes, List.map_cons, List.filterMap_cons_none rfl, List.map_map,
      List.filterMap_eq_nil_iff]
    intro piece member
    obtain ⟨binding, -, rfl⟩ := List.mem_map.mp member
    rfl
  cases isShape : kind.shape inCategory with
  | loop around =>
    have shown : kind ≠ .flag false := by
      rintro rfl
      cases isShape
    rw [if_neg shown, Shape.pieces, Shape.front, List.filterMap_append, List.filterMap_append,
      silent, List.filterMap_cons_none (output?_text _), List.filterMap_append]
    exact (List.append_nil _).trans (List.append_nil _)
  | kept ownsLine =>
    have shown : kind ≠ .flag false := by
      rintro rfl
      cases isShape
    rw [if_neg shown, Shape.pieces, Shape.front, List.filterMap_append,
      List.filterMap_cons_none (output?_text _), List.filterMap_cons_none (output?_text _)]
    exact List.append_nil _
  | hidden =>
    rw [if_pos (kind.eq_of_hidden isShape)]
    rfl

namespace SectionTree

/-- A tree puts out its variables. -/
theorem outputs_pieces (rules : Rules) (tree : SectionTree) (known : rules.Knows tree.tags)
    (inCategory : Bool) :
    (tree.pieces rules inCategory).filterMap output? = (tree.values rules).map Tag.inner := by
  induction tree generalizing inCategory with
  | done => rfl
  | value tag isVariable rest ih =>
    exact congrArg (tag.inner :: ·) (ih (known.mono (by simp +contextual)) inCategory)
  | comment tag isComment rest ih => exact ih (known.mono (by simp +contextual)) inCategory
  | enclosed opener inverted name opens body closer closes rest ihBody ihRest =>
    obtain ⟨kind, isKind⟩ :=
      Option.isSome_iff_exists.mp (known opener (by simp) inverted name opens)
    simp only [pieces, values, isKind, Option.some.injEq, List.filterMap_append, kind.outputs,
      ihBody (known.mono (by simp +contextual)), ihRest (known.mono (by simp +contextual)),
      List.map_append]
    split <;> rfl

/-- The variables of a tree are among its tags, in order. -/
theorem values_sublist (rules : Rules) (tree : SectionTree) :
    (tree.values rules).Sublist tree.tags := by
  induction tree with
  | done => exact .slnil
  | value tag isVariable rest ih => exact ih.cons_cons tag
  | comment tag isComment rest ih => exact ih.cons tag
  | enclosed opener inverted name opens body closer closes rest ihBody ihRest =>
    refine (List.Sublist.append ?_ (ihRest.cons closer)).cons opener
    split
    · exact List.nil_sublist _
    · exact ihBody

theorem ofInner_of_mem_values {rules : Rules} {tree : SectionTree} {tag : Tag}
    (member : tag ∈ tree.values rules) : Marker.ofInner tag.inner = .variable := by
  induction tree with
  | done => cases member
  | value other isVariable rest ih =>
    rcases List.mem_cons.mp member with rfl | member
    · exact isVariable
    · exact ih member
  | comment other isComment rest ih => exact ih member
  | enclosed opener inverted name opens body closer closes rest ihBody ihRest =>
    rcases List.mem_append.mp member with member | member
    · split at member
      · cases member
      · exact ihBody member
    · exact ihRest member

end SectionTree

/-- No code of a loop has a brace but its own. -/
theorem Kind.bounded_loop {inCategory : Bool} {kind : Kind} {around : Loop}
    (isLoop : kind.shape inCategory = .loop around) : ∀ code ∈ around.codes, Bounded code := by
  cases kind.loops_of_shape isLoop <;> decide

/-- **The pieces of a template last**: they are made of texts between its tags, of variables and of
the engine's statements. -/
theorem SectionTree.lasting_pieces (rules : Rules) (tree : SectionTree) {template : List Char}
    (same : tree.tags = (cut template).tags) :
    Lasting (.text (cut template).lead :: tree.pieces rules false) := by
  have cuts := cutsInto_cut template
  obtain ⟨whole, front⟩ := tree.comesFrom_texts rules same
  have bounded := tree.codes_pieces rules Kind.bounded_loop (by decide)
    fun tag member _ => cuts.inner_not_infix tag (same ▸ member)
  refine ⟨fun text member => ?_, fun text member => ?_, fun code member => ?_⟩
  · obtain ⟨source, among, ownsLine, rfl⟩ := whole text member
    exact fun inside => cuts.quiet source among
      (inside.trans (afterMarker_suffix ownsLine source).isInfix)
  · obtain ⟨source, among, ownsLine, rfl⟩ := front text member
    exact solid_afterMarker (solid_of_cutsInto cuts source among) ownsLine
  · exact bounded false code (by simpa using member)

/-- **Compiling again changes nothing.** What a template becomes is a template without markers and
comments, which becomes itself whatever the flags are. Its tags are the template's own variables
that no section hides, in order, and between them stands what stood between them when the pieces
were put together. -/
theorem compile_compile (rules : Rules) (template out : List Char)
    (unnamed : rules.charset = none) (accepted : rules.compile template = .ok out) :
    (∀ other : Rules, other.charset = none → other.compile out = .ok out) ∧
      CutsInto 1 out (cut out) ∧ (cut out).unended = none ∧
      (∀ tag ∈ (cut out).tags, Marker.ofInner tag.inner = .variable) ∧
      ∃ tree : SectionTree, tree.tags = (cut template).tags ∧
        (tree.values rules).Sublist (cut template).tags ∧
        (cut out).tags.map Tag.text = (tree.values rules).map Tag.text ∧
        (cut out).texts = gaps (cut template).lead (tree.pieces rules false) := by
  obtain ⟨text, compiled, rfl⟩ := ok_of_map_eq_ok accepted
  obtain ⟨-, known, tree, same, rfl⟩ := (compileText_ok_iff ..).mp compiled
  have written : rules.rename ((cut template).lead ++ tree.text rules false) =
      (.text (cut template).lead :: tree.pieces rules false).flatMap Piece.write := by
    rw [Rules.rename, unnamed, tree.text_eq_pieces]
    rfl
  generalize rules.rename _ = out at written ⊢
  obtain ⟨parts, cuts, ended, texts, outputs⟩ := @Lasting.cutsInto _ [] 1
    (tree.lasting_pieces rules same) (by simp [opening]) fun _ => Script.solid_nil
  rw [List.nil_append, ← written] at cuts
  obtain rfl := (cutsInto_cut out).unique cuts
  rw [List.filterMap_cons_none (output?_text _),
    tree.outputs_pieces rules (same ▸ known) false] at outputs
  have values : ∀ tag ∈ (cut out).tags, Marker.ofInner tag.inner = .variable := by
    intro tag member
    have among := List.mem_map_of_mem (f := Tag.inner) member
    rw [outputs] at among
    obtain ⟨other, member', isInner⟩ := List.mem_map.mp among
    rw [← isInner]
    exact SectionTree.ofInner_of_mem_values member'
  refine ⟨fun other unnamed' => Settled.compile_eq ⟨ended, values⟩ unnamed', cuts, ended, values,
    tree, same, same ▸ tree.values_sublist rules, ?_, texts⟩
  have braced := congrArg (List.map fun inner => opening ++ inner ++ closing) outputs
  rwa [List.map_map, List.map_map] at braced

/-- A flag that is not set. -/
def quietRules : Rules :=
  ⟨[("old", false)], none⟩

/-- Braces in a variable, after a marker and at the end. -/
def bracedTemplate : List Char :=
  "\x7b\x7b! note \x7d\x7d\x7b\x7b#old\x7d\x7d\n\x7b\x7bx\x7d\x7d\x7b\x7b/old\x7d\x7d".toList ++
    "\x7b\x7ba\x7b\x7b#b\x7d\x7d\x7b\x7b#authors\x7d\x7d\x7d\x7d".toList ++
    "\x7b\x7b/authors\x7d\x7d\x7b".toList

theorem cut_bracedTemplate :
    cut bracedTemplate =
      ⟨[], [⟨1, "! note ".toList, []⟩, ⟨1, "#old".toList, ['\n']⟩, ⟨2, "x".toList, []⟩,
        ⟨2, "/old".toList, []⟩, ⟨2, "a\x7b\x7b#b".toList, []⟩,
        ⟨2, "#authors".toList, closing⟩, ⟨2, "/authors".toList, ['\x7b']⟩], none⟩ := by
  cbv

theorem compile_bracedTemplate :
    quietRules.compile bracedTemplate =
      .ok "\x7b\x7ba\x7b\x7b#b\x7d\x7d\x7d\x7d\x7b".toList := by
  have hidden : quietRules.kind? false "old".toList = some (.flag false) := by cbv
  have authors : quietRules.kind? false "authors".toList = some .authors := by cbv
  rw [Rules.compile, compileText_eq, cut_bracedTemplate, compileTags_comment _ _ _ _ rfl,
    compileTags_opener _ _ _ _ rfl hidden, compileTags_value _ _ _ _ rfl,
    compileTags_closer _ _ _ _ rfl rfl, compileTags_value _ _ _ _ rfl,
    compileTags_opener _ _ _ _ rfl authors, compileTags_closer _ _ _ _ rfl rfl]
  cbv

/-- A marker in a variable opens nothing when the template is compiled again, not even where its
name is a flag. -/
theorem compile_compile_bracedTemplate :
    quietRules.charset = none ∧
      quietRules.compile bracedTemplate =
        .ok "\x7b\x7ba\x7b\x7b#b\x7d\x7d\x7d\x7d\x7b".toList ∧
      (⟨[("b", true)], none⟩ : Rules).compile
          "\x7b\x7ba\x7b\x7b#b\x7d\x7d\x7d\x7d\x7b".toList =
        .ok "\x7b\x7ba\x7b\x7b#b\x7d\x7d\x7d\x7d\x7b".toList :=
  ⟨rfl, compile_bracedTemplate,
    (compile_compile quietRules bracedTemplate _ rfl compile_bracedTemplate).1 _ rfl⟩

end CatalogPages.Markers
