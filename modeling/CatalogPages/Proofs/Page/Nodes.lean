/-
**A section tree as nodes of the engine.**

* `Draft`: nodes, and a text behind them that may still grow;
* `SectionTree.read`: the nodes of a tree, behind those of a draft;
* `readOn_pieces`: this is how the engine reads the pieces of a tree, if its loops do not go too
  deep;
* `readOn_deep`: if they do, the engine fails.
-/

import CatalogPages.Proofs.Page.Pieces

namespace CatalogPages.Markers

open Script (Code Frame Node Path Piece Reading)

/-! ### Drafts -/

/-- Nodes that have been read, in reverse, and the text behind them. -/
structure Draft where
  pending : List Char
  done : List Node

namespace Draft

/-- The nodes with the text, in reverse. -/
def nodes (draft : Draft) : List Node :=
  match draft.pending with
  | [] => draft.done
  | c :: text => .text (c :: text) :: draft.done

def addText (draft : Draft) (text : List Char) : Draft :=
  { draft with pending := draft.pending ++ text }

def addNode (draft : Draft) (node : Node) : Draft :=
  ⟨[], node :: draft.nodes⟩

end Draft

/-- The assignments that a loop starts with. -/
def Loop.assigns (around : Loop) : List Node :=
  around.bindings.map fun (name, member) =>
    .assign (.name name) (Path.expr ⟨around.item, some member⟩)

/-- The nodes of a section and of the text after it. -/
def Shape.read (start : List Char) (body : Draft → Draft) (after : List Char) :
    Shape → Draft → Draft
  | loop around, draft =>
    let inside := body ⟨afterMarker true start, around.assigns.reverse⟩
    let head := Script.loopOver around.item around.source
    (draft.addNode (.loop head inside.nodes.reverse [])).addText (afterMarker true after)
  | kept ownsLine, draft =>
    (body (draft.addText (afterMarker ownsLine start))).addText (afterMarker ownsLine after)
  | hidden, draft => draft.addText (afterMarker true after)

/-- The nodes of a tree, behind a draft. -/
def SectionTree.read (rules : Rules) : (inCategory : Bool) → SectionTree → Draft → Draft
  | _, .done, draft => draft
  | inCategory, .value tag _ rest, draft =>
    rest.read rules inCategory
      ((draft.addNode (.output (.variable (String.ofList tag.inner)))).addText tag.following)
  | inCategory, .comment tag _ rest, draft =>
    rest.read rules inCategory (draft.addText (afterMarker true tag.following))
  | inCategory, .enclosed opener inverted name _ body closer _ rest, draft =>
    match rules.kind? inverted name with
    | some kind =>
      rest.read rules inCategory ((kind.shape inCategory).read opener.following
        (body.read rules (kind.inCategory inCategory)) closer.following draft)
    | none => draft

/-! ### Reading pieces -/

/-- What is read of pieces behind a draft, where some blocks are open. -/
def readOn (draft : Draft) (stack : List Frame) (pieces : List Piece) :
    Except ScriptFault Reading :=
  (Script.assemble draft.pending pieces).foldlM Reading.add ⟨draft.done, stack, [], []⟩

theorem add_pending (draft : Draft) (stack : List Frame) :
    Reading.add ⟨draft.done, stack, [], []⟩ (.text draft.pending) =
      .ok ⟨draft.nodes, stack, [], []⟩ := by
  obtain ⟨pending, done⟩ := draft
  cases pending <;> rfl

@[simp] theorem readOn_text (draft : Draft) (stack : List Frame) (text : List Char)
    (pieces : List Piece) :
    readOn draft stack (.text text :: pieces) = readOn (draft.addText text) stack pieces := rfl

theorem readOn_nil (draft : Draft) (stack : List Frame) :
    readOn draft stack [] = .ok ⟨draft.nodes, stack, [], []⟩ := by
  rw [readOn, Script.assemble, List.foldlM_cons, add_pending]
  rfl

/-- Code is read behind all that comes before it. -/
theorem readOn_code (draft : Draft) (stack : List Frame) (code : Code) (pieces : List Piece) :
    readOn draft stack (.code code :: pieces) =
      (Reading.add ⟨draft.nodes, stack, [], []⟩ code.part).bind fun reading =>
        (Script.assemble [] pieces).foldlM Reading.add reading := by
  rw [readOn, Script.assemble, List.foldlM_cons, add_pending]
  show (code.part :: Script.assemble [] pieces).foldlM Reading.add ⟨draft.nodes, stack, [], []⟩ = _
  rw [List.foldlM_cons]
  rfl

/-- How deep loops may go. -/
def loopLimit : Nat := 147

variable {draft : Draft} {stack : List Frame}

theorem readOn_output {name : List Char} (free : (Code.output name).Free)
    (room : stack.length ≤ loopLimit) (pieces : List Piece) :
    readOn draft stack (.code (.output name) :: pieces) =
      readOn (draft.addNode (.output (.variable (String.ofList name)))) stack pieces := by
  have left : Script.nestingLimit - stack.length = 148 - stack.length + 2 := by
    rw [loopLimit] at room
    rw [Script.nestingLimit]
    omega
  rw [readOn_code, Script.add_output free left]
  rfl

theorem readOn_assigns {item : String} {bindings : List (String × String)}
    (free : ∀ entry ∈ bindings, (Code.assign entry.1 ⟨item, some entry.2⟩).Free)
    (loops : Script.OpenLoops stack) (room : stack.length ≤ loopLimit) (pieces : List Piece) :
    ∀ done : List Node,
      readOn ⟨[], done⟩ stack
        (bindings.map (fun (name, member) => .code (.assign name ⟨item, some member⟩)) ++ pieces) =
      readOn ⟨[], (Loop.assigns ⟨item, ⟨item, none⟩, bindings⟩).reverse ++ done⟩ stack pieces := by
  have left : Script.nestingLimit - stack.length = 147 - stack.length + 3 := by
    rw [loopLimit] at room
    rw [Script.nestingLimit]
    omega
  induction bindings with
  | nil => exact fun _ => rfl
  | cons entry bindings ih =>
    intro done
    have here := free entry List.mem_cons_self
    rw [List.map_cons, List.cons_append, readOn_code, Script.add_assign here loops left]
    have rest := ih (fun other member => free other (List.mem_cons_of_mem _ member))
      (.assign (.name entry.1) (Path.expr ⟨item, some entry.2⟩) :: done)
    simp only [Loop.assigns, List.map_cons, List.reverse_cons, List.append_assoc,
      List.singleton_append] at rest ⊢
    exact rest

/-- The names of a loop's code can be used. -/
theorem Kind.free_loop {inCategory : Bool} {kind : Kind} {around : Loop}
    (isLoop : kind.shape inCategory = .loop around) : ∀ code ∈ around.codes, code.Free := by
  cases kind.loops_of_shape isLoop <;> decide

/-- The block that a loop opens, in front of what was read before it. -/
def Loop.frame (around : Loop) (before : List Node) : Frame :=
  ⟨.loop (Script.loopOver around.item around.source), before⟩

theorem openLoops_cons (loops : Script.OpenLoops stack) (around : Loop) (before : List Node) :
    Script.OpenLoops (around.frame before :: stack) := by
  intro frame member
  rcases List.mem_cons.mp member with rfl | member
  · exact ⟨_, rfl⟩
  · exact loops frame member

/-- The start of a loop opens a block. -/
theorem readOn_loop {around : Loop} (free : ∀ code ∈ around.codes, code.Free)
    (loops : Script.OpenLoops stack) (room : stack.length < loopLimit) (pieces : List Piece) :
    readOn draft stack (around.codes.map .code ++ pieces) =
      readOn ⟨[], around.assigns.reverse⟩ (around.frame draft.nodes :: stack) pieces := by
  have left : Script.nestingLimit - stack.length = 148 - stack.length + 2 := by
    rw [loopLimit] at room
    rw [Script.nestingLimit]
    omega
  have bindings : ∀ entry ∈ around.bindings,
      (Code.assign entry.1 ⟨around.item, some entry.2⟩).Free := by
    intro entry member
    exact free _ (List.mem_cons_of_mem _ (List.mem_map_of_mem member))
  have opened := readOn_assigns bindings (openLoops_cons loops around draft.nodes) room pieces []
  rw [Loop.codes, List.map_cons, List.cons_append, readOn_code,
    Script.add_loop (free _ List.mem_cons_self) loops left, List.map_map]
  rw [List.append_nil] at opened
  exact opened

/-- The end of a loop closes its block. -/
theorem readOn_endLoop (around : Loop) (before : List Node) (pieces : List Piece) :
    readOn draft (around.frame before :: stack) (.code .endLoop :: pieces) =
      readOn ⟨[], .loop (Script.loopOver around.item around.source) draft.nodes.reverse [] ::
        before⟩ stack pieces := by
  rw [readOn_code, Script.add_endLoop rfl]
  rfl

/-! ### Reading trees -/

/-- The names that a tree shows are no constants. -/
def SectionTree.Free (tree : SectionTree) : Prop :=
  ∀ tag ∈ tree.tags, Marker.ofInner tag.inner = .variable →
    String.ofList tag.inner ∉ Script.constantWords

theorem SectionTree.Free.mono {tree part : SectionTree} (free : tree.Free)
    (all : ∀ tag ∈ part.tags, tag ∈ tree.tags) : part.Free :=
  fun tag member => free tag (all tag member)

theorem Kind.depth_of_loop {inCategory : Bool} (inside : Nat) {kind : Kind} {around : Loop}
    (isLoop : kind.shape inCategory = .loop around) : kind.depth inside = inside + 1 := by
  cases kind.loops_of_shape isLoop <;> rfl

theorem Kind.depth_of_kept {inCategory ownsLine : Bool} (inside : Nat) {kind : Kind}
    (isKept : kind.shape inCategory = .kept ownsLine) : kind.depth inside = inside := by
  cases kind.keeps_of_shape isKept <;> rfl

theorem Kind.depth_of_hidden {inCategory : Bool} (inside : Nat) {kind : Kind}
    (isHidden : kind.shape inCategory = .hidden) : kind.depth inside = 0 := by
  rw [kind.eq_of_hidden isHidden]
  rfl

/-- **A tree is read node by node**, if there is room for its loops. -/
theorem readOn_pieces (rules : Rules) (tree : SectionTree) (free : tree.Free) :
    ∀ (inCategory : Bool) (draft : Draft) (stack : List Frame) (more : List Piece),
      Script.OpenLoops stack → stack.length + tree.depth rules ≤ loopLimit →
      readOn draft stack (tree.pieces rules inCategory ++ more) =
        readOn (tree.read rules inCategory draft) stack more := by
  induction tree with
  | done => exact fun _ _ _ _ _ _ => rfl
  | value tag isVariable rest ih =>
    intro inCategory draft stack more loops room
    have here : (Code.output tag.inner).Free := free tag (by simp) isVariable
    have within : stack.length ≤ loopLimit := Nat.le_of_add_right_le room
    rw [SectionTree.pieces, List.cons_append, List.cons_append, readOn_output here within,
      readOn_text]
    exact ih (free.mono (by simp +contextual)) inCategory _ stack more loops room
  | comment tag isComment rest ih =>
    intro inCategory draft stack more loops room
    rw [SectionTree.pieces, List.cons_append, readOn_text]
    exact ih (free.mono (by simp +contextual)) inCategory _ stack more loops room
  | enclosed opener inverted name opens body closer closes rest ihBody ihRest =>
    intro inCategory draft stack more loops room
    have freeBody : body.Free := free.mono (by simp +contextual)
    have freeRest : rest.Free := free.mono (by simp +contextual)
    rw [SectionTree.depth] at room
    rw [SectionTree.pieces, SectionTree.read]
    cases isKind : rules.kind? inverted name with
    | none => rfl
    | some kind =>
      simp only [isKind] at room
      have roomBody : stack.length + kind.depth (body.depth rules) ≤ loopLimit :=
        Nat.le_trans (Nat.add_le_add_left (Nat.le_max_left ..) _) room
      have roomRest : stack.length + rest.depth rules ≤ loopLimit :=
        Nat.le_trans (Nat.add_le_add_left (Nat.le_max_right ..) _) room
      simp only [Shape.pieces, List.append_assoc, List.singleton_append]
      cases isShape : kind.shape inCategory with
      | loop around =>
        rw [kind.depth_of_loop _ isShape, ← Nat.add_assoc, Nat.add_right_comm] at roomBody
        have opened : stack.length < loopLimit := Nat.le_of_add_right_le roomBody
        simp only [Shape.front, List.append_assoc, List.cons_append, List.nil_append]
        rw [readOn_loop (kind.free_loop isShape) loops opened, readOn_text,
          ihBody freeBody _ _ _ _ (openLoops_cons loops around _) roomBody, readOn_endLoop,
          readOn_text, ihRest freeRest _ _ _ _ loops roomRest]
        rfl
      | kept ownsLine =>
        rw [kind.depth_of_kept _ isShape] at roomBody
        simp only [Shape.front, List.cons_append]
        rw [readOn_text, ihBody freeBody _ _ _ _ loops roomBody, readOn_text,
          ihRest freeRest _ _ _ _ loops roomRest]
        rfl
      | hidden =>
        simp only [Shape.front, List.nil_append, List.cons_append]
        rw [readOn_text, ihRest freeRest _ _ _ _ loops roomRest]
        rfl

/-- What the engine reads of a template with a tree. -/
theorem parse_text {template : List Char} {rules : Rules} {tree : SectionTree}
    (same : tree.tags = (cut template).tags) (named : tree.Named) (free : tree.Free)
    (plain : ∀ text ∈ (cut template).texts, Script.Plain text)
    (room : tree.depth rules ≤ loopLimit) :
    Script.parse ((cut template).lead ++ tree.text rules false) =
      .ok ⟨(tree.read rules false ⟨(cut template).lead, []⟩).nodes.reverse, []⟩ := by
  have read := readOn_pieces rules tree free false ⟨(cut template).lead, []⟩ [] []
    (fun _ member => nomatch member) (by simpa using room)
  rw [List.append_nil, readOn_nil] at read
  rw [Script.parse, parts_text same named plain]
  show (readOn ⟨(cut template).lead, []⟩ [] (tree.pieces rules false) >>= _) = _
  rw [read]
  rfl

/-! ### Loops that go too deep -/

/-- The start of a loop needs more room than there is where the limit has been reached. -/
theorem readOn_loop_of_full {around : Loop} (free : ∀ code ∈ around.codes, code.Free)
    (binds : around.bindings ≠ []) (loops : Script.OpenLoops stack)
    (full : stack.length = loopLimit) (pieces : List Piece) :
    readOn draft stack (around.codes.map .code ++ pieces) = .error .malformed := by
  obtain ⟨entry, bindings, isBindings⟩ := List.exists_cons_of_ne_nil binds
  have left : Script.nestingLimit - stack.length = 1 + 2 := by
    rw [full]
    rfl
  have codes : around.codes = .loop around.item around.source ::
      .assign entry.1 ⟨around.item, some entry.2⟩ ::
      bindings.map fun (name, member) => .assign name ⟨around.item, some member⟩ := by
    rw [Loop.codes, isBindings]
    rfl
  rw [codes] at free ⊢
  have inner : readOn ⟨[], []⟩ (around.frame draft.nodes :: stack)
      (.code (.assign entry.1 ⟨around.item, some entry.2⟩) ::
        (bindings.map (fun (name, member) => .code (.assign name ⟨around.item, some member⟩)) ++
          pieces)) = .error .malformed := by
    rw [readOn_code, Script.add_assign_of_full (free _ (by simp))
      (openLoops_cons loops around draft.nodes) (by rw [List.length_cons, full]; rfl)]
    rfl
  rw [List.map_cons, List.map_cons, List.cons_append, List.cons_append, readOn_code,
    Script.add_loop (free _ List.mem_cons_self) loops left, List.map_map]
  exact inner

theorem Kind.binds_of_loop {inCategory : Bool} {kind : Kind} {around : Loop}
    (isLoop : kind.shape inCategory = .loop around) : around.bindings ≠ [] := by
  cases kind.loops_of_shape isLoop <;> exact List.cons_ne_nil _ _

/-- **A tree whose loops go too deep is not read.** -/
theorem readOn_deep (rules : Rules) (tree : SectionTree) (free : tree.Free) :
    ∀ (inCategory : Bool) (draft : Draft) (stack : List Frame) (more : List Piece),
      Script.OpenLoops stack → stack.length ≤ loopLimit →
      loopLimit < stack.length + tree.depth rules →
      readOn draft stack (tree.pieces rules inCategory ++ more) = .error .malformed := by
  induction tree with
  | done =>
    intro inCategory draft stack more loops room deep
    exact absurd room (Nat.not_le.mpr deep)
  | value tag isVariable rest ih =>
    intro inCategory draft stack more loops room deep
    have here : (Code.output tag.inner).Free := free tag (by simp) isVariable
    rw [SectionTree.pieces, List.cons_append, List.cons_append, readOn_output here room,
      readOn_text]
    exact ih (free.mono (by simp +contextual)) inCategory _ stack more loops room deep
  | comment tag isComment rest ih =>
    intro inCategory draft stack more loops room deep
    rw [SectionTree.pieces, List.cons_append, readOn_text]
    exact ih (free.mono (by simp +contextual)) inCategory _ stack more loops room deep
  | enclosed opener inverted name opens body closer closes rest ihBody ihRest =>
    intro inCategory draft stack more loops room deep
    have freeBody : body.Free := free.mono (by simp +contextual)
    have freeRest : rest.Free := free.mono (by simp +contextual)
    rw [SectionTree.depth] at deep
    rw [SectionTree.pieces]
    cases isKind : rules.kind? inverted name with
    | none =>
      simp only [isKind] at deep
      exact absurd room (Nat.not_le.mpr deep)
    | some kind =>
      simp only [isKind] at deep
      simp only [Shape.pieces, List.append_assoc, List.singleton_append]
      cases isShape : kind.shape inCategory with
      | loop around =>
        have opening := kind.free_loop isShape
        rw [kind.depth_of_loop _ isShape] at deep
        simp only [Shape.front, List.append_assoc, List.cons_append, List.nil_append]
        rcases Nat.eq_or_lt_of_le room with full | opened
        · exact readOn_loop_of_full opening (kind.binds_of_loop isShape) loops full _
        rw [readOn_loop opening loops opened, readOn_text]
        have loops' := openLoops_cons loops around draft.nodes
        -- The body fails, or else it is read and what comes after it fails.
        by_cases inside : stack.length + 1 + body.depth rules ≤ loopLimit
        · rw [readOn_pieces rules body freeBody _ _ _ _ loops' inside, readOn_endLoop, readOn_text]
          exact ihRest freeRest _ _ _ _ loops room (by omega)
        · exact ihBody freeBody _ _ _ _ loops' opened (Nat.not_le.mp inside)
      | kept ownsLine =>
        rw [kind.depth_of_kept _ isShape] at deep
        simp only [Shape.front, List.cons_append]
        rw [readOn_text]
        by_cases inside : stack.length + body.depth rules ≤ loopLimit
        · rw [readOn_pieces rules body freeBody _ _ _ _ loops inside, readOn_text]
          exact ihRest freeRest _ _ _ _ loops room (by omega)
        · exact ihBody freeBody _ _ _ _ loops room (Nat.not_le.mp inside)
      | hidden =>
        rw [kind.depth_of_hidden _ isShape] at deep
        simp only [Shape.front, List.nil_append, List.cons_append]
        rw [readOn_text]
        exact ihRest freeRest _ _ _ _ loops room (by omega)

/-- What a template becomes whose loops go too deep is not read. -/
theorem parse_deep {template : List Char} {rules : Rules} {tree : SectionTree}
    (same : tree.tags = (cut template).tags) (named : tree.Named) (free : tree.Free)
    (plain : ∀ text ∈ (cut template).texts, Script.Plain text)
    (deep : loopLimit < tree.depth rules) :
    Script.parse ((cut template).lead ++ tree.text rules false) = .error .malformed := by
  have fails := readOn_deep rules tree free false ⟨(cut template).lead, []⟩ [] []
    (fun _ member => nomatch member) (Nat.zero_le _) (by simpa using deep)
  rw [List.append_nil] at fails
  rw [Script.parse, parts_text same named plain]
  show (readOn ⟨(cut template).lead, []⟩ [] (tree.pieces rules false) >>= _) = _
  rw [fails]
  rfl

end CatalogPages.Markers
