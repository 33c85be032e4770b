/-
**The nodes of a section tree write its text.**

* `Draft.Makes`: what the nodes of a draft write, with the text behind them;
* `AddsAt`: what is read behind a draft adds a text at a place;
* `Loop.Goes`: the items that a loop goes through at a place;
* `addsAt_read`: the nodes of a tree add the text of the tree.
-/

import CatalogPages.Proofs.Page.Running

namespace CatalogPages.Markers

open Script (Calls Node State)

variable {calls : Calls} {before middle after : State} {text more : List Char}

/-! ### Drafts -/

namespace Draft

variable {draft : Draft}

/-- The nodes of a draft, and the text behind them, make a text. -/
def Makes (draft : Draft) (calls : Calls) (before : State) (text : List Char) (after : State) :
    Prop :=
  ∃ written, Writes calls draft.done.reverse before written after ∧
    text = written ++ draft.pending

theorem Makes.nodes (writes : draft.Makes calls before text after) :
    Writes calls draft.nodes.reverse before text after := by
  obtain ⟨pending, done⟩ := draft
  obtain ⟨written, ran, rfl⟩ := writes
  cases pending with
  | nil => rwa [List.append_nil]
  | cons c pending =>
    have last : Writes calls [.text (c :: pending)] after (c :: pending) after := writes_one rfl
    show Writes calls (Node.text (c :: pending) :: done).reverse before _ after
    rw [List.reverse_cons]
    exact ran.append last

theorem Makes.addText (writes : draft.Makes calls before text after) (more : List Char) :
    (draft.addText more).Makes calls before (text ++ more) after := by
  obtain ⟨written, ran, rfl⟩ := writes
  exact ⟨written, ran, List.append_assoc ..⟩

theorem Makes.addNode {node : Node} (writes : draft.Makes calls before text middle)
    (ran : (node.run calls).run middle = .ok (more, after)) :
    (draft.addNode node).Makes calls before (text ++ more) after := by
  refine ⟨text ++ more, ?_, (List.append_nil _).symm⟩
  show Writes calls (node :: draft.nodes).reverse before _ after
  rw [List.reverse_cons]
  exact writes.nodes.append (writes_one ran)

end Draft

/-- What is read behind a draft adds a text, wherever a state stands for a place. -/
def AddsAt (calls : Calls) (context : PageContext) (scene : Scene) (read : Draft → Draft)
    (more : List Char) : Prop :=
  ∀ (draft : Draft) (start state : State) (text : List Char), context.Stands scene state →
    draft.Makes calls start text state →
    ∃ after, State.Continues state after ∧ (read draft).Makes calls start (text ++ more) after

section Adding

variable {context : PageContext} {scene : Scene} {read further : Draft → Draft}

theorem addsAt_nothing : AddsAt calls context scene (fun draft => draft) [] := by
  intro draft start state text _ writes
  rw [List.append_nil]
  exact ⟨state, ⟨state.loops, rfl⟩, writes⟩

theorem addsAt_text (text : List Char) :
    AddsAt calls context scene (fun draft => draft.addText text) text := by
  intro draft start state before _ writes
  exact ⟨state, ⟨state.loops, rfl⟩, writes.addText text⟩

theorem AddsAt.then (adds : AddsAt calls context scene read text)
    (next : AddsAt calls context scene further more) :
    AddsAt calls context scene (fun draft => further (read draft)) (text ++ more) := by
  intro draft start state front stands writes
  obtain ⟨middle, goes, written⟩ := adds draft start state front stands writes
  obtain ⟨after, goes', written'⟩ :=
    next (read draft) start middle (front ++ text) (stands.continues goes) written
  obtain ⟨loops, rfl⟩ := goes
  obtain ⟨loops', rfl⟩ := goes'
  rw [← List.append_assoc]
  exact ⟨_, ⟨loops', rfl⟩, written'⟩

/-- A variable adds its value. -/
theorem addsAt_variable {name : String} (shown : context.Shown name) :
    AddsAt calls context scene (fun draft => draft.addNode (.output (.variable name)))
      (PageContext.shownValue (context.value? scene name)) := by
  intro draft start state text stands writes
  refine ⟨state, ⟨state.loops, rfl⟩, writes.addNode ?_⟩
  rw [Node.run, run_bind (run_variable calls name state), ← stands.onPage shown]
  rfl

end Adding

/-! ### What loops go through -/

variable {context : PageContext} {scene : Scene}

/-- The items that a loop goes through at a place. -/
structure Loop.Goes (around : Loop) (context : PageContext) (scene : Scene) (items : List Item) :
    Prop where
  source : ∀ (calls : Calls) (state : State), context.Stands scene state →
    (around.source.expr.value calls).run state = .ok (.list (items.map Item.value), state)
  names : ∀ item ∈ items, item.variableName = around.item ∧ item.bindings = around.bindings

/-- The value of a variable that has one. -/
theorem run_path (calls : Calls) {state : State} {name : String} {value : Script.Value}
    (found : state.find? name = some value) :
    ((Script.Path.expr ⟨name, none⟩).value calls).run state = .ok (value, state) := by
  show ((Script.Expr.variable name).value calls).run state = _
  rw [run_variable, found]
  rfl

/-- No loop gives a value to the name of a list. -/
theorem findSome_listName {name : String} (isList : name ∈ PageContext.listNames) (scene : Scene) :
    (scene.findSome? fun item => item.values.lookup name) = none := by
  rw [List.findSome?_eq_none_iff]
  intro item _
  simp only [PageContext.listNames, List.mem_cons, List.not_mem_nil, or_false] at isList
  rcases isList with rfl | rfl | rfl <;> cases item <;> rfl

/-- Lists are found on the page. -/
theorem find?_list {state : State} (stands : context.Stands scene state) {name : String}
    (isList : name ∈ PageContext.listNames) {value : Script.Value}
    (held : context.values.lookup name = some value) : state.find? name = some value := by
  have other : name ≠ "loop" := by
    rintro rfl
    exact absurd isList (by decide)
  rw [stands.find? other, findSome_listName isList, held]
  rfl

theorem goes_categories (apart : "categories" ∉ context.globals.map Prod.fst) (scene : Scene) :
    Loop.categories.Goes context scene (context.categories.map .inCategory) := by
  refine ⟨fun calls state stands => ?_, fun item member => ?_⟩
  · have found := find?_list stands (by decide) (PageContext.values_categories apart)
    rw [List.map_map]
    exact run_path calls found
  · obtain ⟨view, -, rfl⟩ := List.mem_map.mp member
    exact ⟨rfl, rfl⟩

theorem goes_libraries (apart : "libraries" ∉ context.globals.map Prod.fst) (scene : Scene) :
    (Loop.libraries allLibraries).Goes context scene (context.libraries.map .atLibrary) := by
  refine ⟨fun calls state stands => ?_, fun item member => ?_⟩
  · have found := find?_list stands (by decide) (PageContext.values_libraries apart)
    rw [List.map_map]
    exact run_path calls found
  · obtain ⟨library, -, rfl⟩ := List.mem_map.mp member
    exact ⟨rfl, rfl⟩

/-- The category that a place is in. -/
theorem findSome_category (scene : Scene) :
    (scene.findSome? fun item => item.values.lookup "category") =
      scene.category?.map CategoryView.toValue := by
  induction scene with
  | nil => rfl
  | cons item scene ih =>
    rw [List.findSome?_cons, ih, Scene.category?, Scene.category?, List.findSome?_cons]
    cases item <;> rfl

theorem goes_categoryLibraries {view : CategoryView} (isAt : scene.category? = some view) :
    (Loop.libraries categoryLibraries).Goes context scene (view.libraries.map .atLibrary) := by
  refine ⟨fun calls state stands => ?_, fun item member => ?_⟩
  · have other : "category" ≠ "loop" := by decide
    have found : state.find? "category" = some view.toValue := by
      rw [stands.find? other, findSome_category, isAt]
      rfl
    have isOwner : state.find? (Item.inCategory view).variableName =
      some (Item.inCategory view).value := found
    have isSource := value_member calls isOwner (libraries_value view)
    rw [List.map_map]
    exact isSource
  · obtain ⟨library, -, rfl⟩ := List.mem_map.mp member
    exact ⟨rfl, rfl⟩

/-! ### Sections and trees -/

/-- What the loops of a section go through. -/
def Kind.items (context : PageContext) (scene : Scene) : Kind → List Item
  | categorized => context.categories.map .inCategory
  | alphabetic => context.libraries.map .atLibrary
  | libraries => (context.librariesAt scene).map .atLibrary
  | authors | flag _ => []

theorem Kind.goes {parts : Cut} (fits : context.Fits parts) {inCategory : Bool}
    (isInside : inCategory = scene.category?.isSome) {kind : Kind} {around : Loop}
    (isLoop : kind.shape inCategory = .loop around) :
    around.Goes context scene (kind.items context scene) := by
  have apart : ∀ name ∈ context.builtIn.map Prod.fst, name ∉ context.globals.map Prod.fst :=
    fun name isBuiltIn isGlobal => (fits.apart name isGlobal).1 isBuiltIn
  have libraries := goes_libraries (apart "libraries" (by simp [PageContext.builtIn]))
  cases kind.loops_of_shape isLoop with
  | categorized => exact goes_categories (apart "categories" (by simp [PageContext.builtIn])) scene
  | alphabetic => exact libraries scene
  | ofCategory =>
    obtain ⟨view, isAt⟩ := Option.isSome_iff_exists.mp isInside.symm
    rw [Kind.items, PageContext.librariesAt, isAt]
    exact goes_categoryLibraries isAt
  | ofPage =>
    have outside : scene.category? = none := by simpa using isInside
    rw [Kind.items, PageContext.librariesAt, outside]
    exact libraries scene

/-- What a loop shows, item by item. -/
theorem Kind.page_of_loop {inCategory : Bool} {kind : Kind} {around : Loop}
    (isLoop : kind.shape inCategory = .loop around) (start : List Char)
    (body : Scene → List Char) (after : List Char) :
    kind.page context scene start body after =
      ((kind.items context scene).flatMap fun item =>
        Text.skipLineBreak start ++ body (item :: scene)) ++ Text.skipLineBreak after := by
  cases kind.loops_of_shape isLoop <;> simp only [Kind.page, Kind.items, List.flatMap_map]

theorem Kind.category_of_loop {inCategory : Bool} (isInside : inCategory = scene.category?.isSome)
    {kind : Kind} {around : Loop} (isLoop : kind.shape inCategory = .loop around) :
    ∀ item ∈ kind.items context scene,
      kind.inCategory inCategory = (Scene.category? (item :: scene)).isSome := by
  intro item member
  cases kind.loops_of_shape isLoop with
  | categorized =>
    obtain ⟨view, -, rfl⟩ := List.mem_map.mp member
    rfl
  | alphabetic | ofCategory | ofPage =>
    obtain ⟨library, -, rfl⟩ := List.mem_map.mp member
    exact isInside

/-- The body of a loop is run in a state that stands for the item. -/
theorem AddsAt.writesAt {around : Loop} {item : Item} {body : Draft → Draft} {state : State}
    (names : item.variableName = around.item ∧ item.bindings = around.bindings)
    (stands : context.Stands scene state) (adds : AddsAt calls context (item :: scene) body text)
    (start : List Char) :
    WritesAt calls (body ⟨afterMarker true start, around.assigns.reverse⟩).nodes.reverse state item
      (Text.skipLineBreak start ++ text) := by
  intro cycle loops
  let held : List (String × Script.Value) := [(item.variableName, item.value)]
  have assigned : Writes calls around.assigns
      (inLoop state ⟨held, cycle, none⟩ loops) [] (inLoop state (item.layer cycle) loops) := by
    rw [Loop.assigns, ← names.1, ← names.2]
    exact writes_assigns item.member_value item.variableName_ne cycle state.layers
      (inLoop state (item.layer cycle) loops) stands.records held (by simp [held])
  have begun : (Draft.mk (afterMarker true start) around.assigns.reverse).Makes calls
      (inLoop state ⟨held, cycle, none⟩ loops) (Text.skipLineBreak start)
      (inLoop state (item.layer cycle) loops) := by
    refine ⟨[], ?_, rfl⟩
    rwa [List.reverse_reverse]
  obtain ⟨after, ⟨loops', rfl⟩, written⟩ :=
    adds _ _ _ _ (stands.inLoop (isAt_layer item cycle) loops) begun
  exact ⟨item.layer cycle, loops', written.nodes⟩

/-- A loop adds the text of its body for each item that it goes through. -/
theorem addsAt_loop {around : Loop} {items : List Item} (goes : around.Goes context scene items)
    (room : scene.length < Script.depthLimit) {body : Draft → Draft} {text : Item → List Char}
    (adds : ∀ item ∈ items, AddsAt calls context (item :: scene) body (text item))
    (start : List Char) :
    AddsAt calls context scene
      (fun draft => draft.addNode (.loop (Script.loopOver around.item around.source)
        (body ⟨afterMarker true start, around.assigns.reverse⟩).nodes.reverse []))
      (items.flatMap fun item => Text.skipLineBreak start ++ text item) := by
  intro draft begun state front stands writes
  have within : state.depth ≤ Script.depthLimit := by
    rw [stands.depth]
    exact room
  obtain ⟨after, continues, ran⟩ := run_loop (goes.source calls state stands) within
    (fun item among => (goes.names item among).1)
    (fun item among => (adds item among).writesAt (goes.names item among) stands start)
  exact ⟨after, continues, writes.addNode ran⟩

theorem Kind.page_of_kept {inCategory ownsLine : Bool} {kind : Kind}
    (isKept : kind.shape inCategory = .kept ownsLine) (start : List Char)
    (body : Scene → List Char) (after : List Char) :
    kind.page context scene start body after =
      afterMarker ownsLine start ++ body scene ++ afterMarker ownsLine after := by
  cases kind.keeps_of_shape isKept <;> rfl

theorem Kind.page_of_hidden {inCategory : Bool} {kind : Kind}
    (isHidden : kind.shape inCategory = .hidden) (start : List Char) (body : Scene → List Char)
    (after : List Char) :
    kind.page context scene start body after = afterMarker true after := by
  rw [kind.eq_of_hidden isHidden]
  rfl

theorem Kind.inCategory_of_kept {inCategory ownsLine : Bool} {kind : Kind}
    (isKept : kind.shape inCategory = .kept ownsLine) :
    kind.inCategory inCategory = inCategory := by
  cases kind.keeps_of_shape isKept <;> rfl

/-- A section adds its text, if its body does wherever there is room for the loops in it. -/
theorem addsAt_section {parts : Cut} (fits : context.Fits parts) {inCategory : Bool}
    (isInside : inCategory = scene.category?.isSome) {kind : Kind} {inside : Nat}
    (room : scene.length + kind.depth inside ≤ loopLimit) {body : Draft → Draft}
    {page : Scene → List Char}
    (adds : ∀ scene : Scene, kind.inCategory inCategory = scene.category?.isSome →
      scene.length + inside ≤ loopLimit → AddsAt calls context scene body (page scene))
    (start after : List Char) :
    AddsAt calls context scene ((kind.shape inCategory).read start body after)
      (kind.page context scene start page after) := by
  cases isShape : kind.shape inCategory with
  | loop around =>
    rw [kind.depth_of_loop _ isShape] at room
    rw [kind.page_of_loop isShape]
    have shallow : scene.length < Script.depthLimit := by
      rw [loopLimit] at room
      rw [Script.depthLimit]
      omega
    have inLoop : ∀ item ∈ kind.items context scene,
        AddsAt calls context (item :: scene) body (page (item :: scene)) := by
      intro item among
      refine adds (item :: scene) (kind.category_of_loop isInside isShape item among) ?_
      rw [List.length_cons]
      omega
    have items := addsAt_loop (kind.goes fits isInside isShape) shallow inLoop start
    exact items.then (addsAt_text _)
  | kept ownsLine =>
    rw [kind.depth_of_kept _ isShape] at room
    rw [kind.page_of_kept isShape]
    have isInside' : kind.inCategory inCategory = scene.category?.isSome := by
      rw [kind.inCategory_of_kept isShape, isInside]
    exact ((addsAt_text _).then (adds scene isInside' room)).then (addsAt_text _)
  | hidden =>
    rw [kind.page_of_hidden isShape]
    exact addsAt_text _

/-- **The nodes of a tree write the text of the tree**, if there is room for its loops. -/
theorem addsAt_read (calls : Calls) {parts : Cut} (fits : context.Fits parts) (rules : Rules)
    (tree : SectionTree) (shown : ∀ tag ∈ tree.tags, Marker.ofInner tag.inner = .variable →
      context.Shown (String.ofList tag.inner)) :
    ∀ (inCategory : Bool) (scene : Scene), inCategory = scene.category?.isSome →
      scene.length + tree.depth rules ≤ loopLimit →
      AddsAt calls context scene (tree.read rules inCategory) (tree.page context rules scene) := by
  induction tree with
  | done => exact fun _ _ _ _ => addsAt_nothing
  | value tag isVariable rest ih =>
    intro inCategory scene isInside room
    have name : AddsAt calls context scene _ _ := addsAt_variable (shown tag (by simp) isVariable)
    have beyond := ih fun other among => shown other (by simp [among])
    have later := beyond inCategory scene isInside room
    exact (name.then (addsAt_text tag.following)).then later
  | comment tag isComment rest ih =>
    intro inCategory scene isInside room
    have beyond := ih fun other among => shown other (by simp [among])
    have later := beyond inCategory scene isInside room
    exact (addsAt_text (afterMarker true tag.following)).then later
  | enclosed opener inverted name opens body closer closes rest ihBody ihRest =>
    intro inCategory scene isInside room
    have within := ihBody fun other among => shown other (by simp [among])
    have beyond := ihRest fun other among => shown other (by simp [among])
    rw [SectionTree.depth] at room
    rw [SectionTree.page]
    show AddsAt calls context scene (fun draft => SectionTree.read rules inCategory _ draft) _
    simp only [SectionTree.read]
    cases isKind : rules.kind? inverted name with
    | none => exact addsAt_nothing
    | some kind =>
      simp only [isKind] at room
      have roomBody : scene.length + kind.depth (body.depth rules) ≤ loopLimit :=
        Nat.le_trans (Nat.add_le_add_left (Nat.le_max_left ..) _) room
      have roomRest : scene.length + rest.depth rules ≤ loopLimit :=
        Nat.le_trans (Nat.add_le_add_left (Nat.le_max_right ..) _) room
      have later := beyond inCategory scene isInside roomRest
      have here := addsAt_section fits isInside roomBody (within _) opener.following
        closer.following
      exact here.then later

end CatalogPages.Markers
