/-
**How the engine runs loops.**

* `Stands`: the layers of a run stand for the loops around a place of a page;
* `Stands.onPage`: at such a place a name is written as the marker language shows it;
* `Writes`: nodes write a text and leave a state behind;
* `writes_assigns`: the assignments of a loop make its layer stand for the item that it is at;
* `run_loop`: a loop writes its body for each of its items.
-/

import CatalogPages.Proofs.Page.Nodes
import CatalogPages.Proofs.Page.Values

namespace CatalogPages

open Script (Calls Cycle Expr Layer Node Path Run State Value)

/-! ### Layers and places -/

/-- A layer of a loop holds the names of what the loop is at. -/
structure Item.IsAt (item : Item) (layer : Layer) : Prop where
  closure : layer.closure = none
  names : ∀ name, layer.names.lookup name = item.values.lookup name

/-- A state at a place of a page: the layers of the loops around it, and the page's own. -/
structure PageContext.Stands (context : PageContext) (scene : Scene) (state : State) : Prop where
  layers : ∃ inner, state.layers = inner ++ [⟨context.values, none, none⟩] ∧
    List.Forall₂ Item.IsAt scene inner
  depth : state.depth = scene.length + 1
  escapes : state.escapes = true
  records : state.records = []

/-- A state that differs from another in the number of loops that have been started. -/
def State.Continues (before after : State) : Prop :=
  ∃ loops, after = { before with loops }

namespace PageContext

variable {context : PageContext} {scene : Scene} {state : State}

theorem Stands.continues {after : State} (stands : context.Stands scene state)
    (goes : State.Continues state after) : context.Stands scene after := by
  obtain ⟨loops, rfl⟩ := goes
  exact ⟨stands.layers, stands.depth, stands.escapes, stands.records⟩

theorem findSome_layers {inner : List Layer} {name : String} (other : name ≠ "loop")
    (areAt : List.Forall₂ Item.IsAt scene inner) :
    (inner.findSome? fun layer => layer.find? name) =
      scene.findSome? fun item => item.values.lookup name := by
  induction areAt with
  | nil => rfl
  | cons here _ ih =>
    rw [List.findSome?_cons, List.findSome?_cons, ih, Layer.find?, here.names, if_neg other,
      Option.or_none]

/-- **The innermost loop that gives a name a value decides**, and then the page. -/
theorem Stands.find? (stands : context.Stands scene state) {name : String}
    (other : name ≠ "loop") :
    state.find? name =
      ((scene.findSome? fun item => item.values.lookup name).or
        (context.values.lookup name)).or (Script.functions.lookup name) := by
  obtain ⟨⟨inner, isLayers, areAt⟩, -, -, records⟩ := stands
  have latest : state.latest = id := by
    funext value
    simp [State.latest, records]
  have page : Layer.find? ⟨context.values, none, none⟩ name = context.values.lookup name := by
    rw [Layer.find?, if_neg other, Option.or_none]
  rw [State.find?, latest, Option.map_id, id, isLayers, List.findSome?_append,
    findSome_layers other areAt, List.findSome?_singleton, page]

/-! ### Shown names -/

/-- A name that stands for the same in both languages. -/
structure Shown (context : PageContext) (name : String) : Prop where
  other : name ≠ "loop"
  notItem : name ≠ "category" ∧ name ≠ "library"
  notList : name ∉ listNames
  /-- A function of the engine is not found under the name. -/
  found : Script.functions.lookup name = none ∨ (context.members.lookup name).isSome

theorem Fits.shown {parts : Markers.Cut} (fits : context.Fits parts) {tag : Markers.Tag}
    (member : tag ∈ parts.tags) (isVariable : Markers.Marker.ofInner tag.inner = .variable) :
    context.Shown (String.ofList tag.inner) := by
  rcases fits.shows tag member isVariable with known | shows
  · generalize String.ofList tag.inner = name at known
    have all : ∀ name ∈ shownNames, name ≠ "loop" ∧ (name ≠ "category" ∧ name ≠ "library") ∧
        name ∉ listNames ∧ name ∉ Script.functions.map Prod.fst := by decide
    obtain ⟨other, notItem, notList, missing⟩ := all name known
    exact ⟨other, notItem, notList, .inl (lookup_eq_none missing)⟩
  · obtain ⟨notBuiltIn, notLoop⟩ := fits.apart _ shows.isGlobal
    have lists : ∀ name ∈ listNames, name ∈ context.builtIn.map Prod.fst := by
      simp [listNames, builtIn]
    refine ⟨shows.other, ?_, fun among => notBuiltIn (lists _ among), .inr ?_⟩
    · simp only [loopNames, List.mem_cons, not_or] at notLoop
      exact ⟨notLoop.1, notLoop.2.1⟩
    · rw [lookup_members_eq, Option.isSome_or, Bool.or_eq_true]
      refine .inl (List.lookup_isSome_iff.mpr ?_)
      obtain ⟨entry, among, named⟩ := List.mem_map.mp shows.isGlobal
      exact ⟨entry, by simpa using among, by simp [named]⟩

/-- Where a name is not that of an item, only the names of the marker language are found. -/
theorem findSome_values {name : String} (notItem : name ≠ "category" ∧ name ≠ "library")
    (scene : Scene) :
    (scene.findSome? fun item => item.values.lookup name) =
      (scene.findSome? fun item => item.names.lookup name).map .ofName := by
  have one (item : Item) :
      item.values.lookup name = (item.names.lookup name).map .ofName := by
    have differ : (name == item.variableName) = false := by
      cases item with
      | inCategory view => exact beq_false_of_ne notItem.1
      | atLibrary library => exact beq_false_of_ne notItem.2
    rw [Item.values, List.lookup_cons, differ]
    exact lookup_map_value Value.ofName name item.names
  induction scene with
  | nil => rfl
  | cons item scene ih =>
    rw [List.findSome?_cons, List.findSome?_cons, one, ih]
    cases item.names.lookup name <;> rfl

/-- **A value is written as the marker language shows it.** -/
theorem Stands.onPage (stands : context.Stands scene state) {name : String}
    (shown : context.Shown name) :
    ((state.find? name).getD .undefined).onPage state.escapes =
      shownValue (context.value? scene name) := by
  rw [stands.find? shown.other, stands.escapes, findSome_values shown.notItem,
    lookup_values shown.notList, value?]
  cases scene.findSome? fun item => item.names.lookup name with
  | some text => exact Value.onPage_text true text
  | none =>
    cases isMember : context.members.lookup name with
    | some value =>
      cases value with
      | string text => exact Value.onPage_text true text
      | _ => rfl
    | none =>
      have missing : Script.functions.lookup name = none := by
        rcases shown.found with missing | isSome
        · exact missing
        · simp [isMember] at isSome
      rw [missing]
      rfl

end PageContext

/-! ### Nodes in sequence -/

section Writing

variable {calls : Calls} {before middle after : State} {text more : List Char}

theorem run_bind {α β : Type} {first : Run α} {next : α → Run β} {value : α}
    (ran : first.run before = .ok (value, middle)) :
    (first >>= next).run before = (next value).run middle := by
  rw [StateT.run_bind, ran]
  rfl

/-- Nodes write a text and leave a state behind. -/
def Writes (calls : Calls) (nodes : List Node) (before : State) (text : List Char)
    (after : State) : Prop :=
  (Script.runAll calls nodes).run before = .ok (text, after)

theorem writes_nil (state : State) : Writes calls [] state [] state := rfl

theorem writes_cons {node : Node} {nodes : List Node}
    (first : (node.run calls).run before = .ok (text, middle))
    (rest : Writes calls nodes middle more after) :
    Writes calls (node :: nodes) before (text ++ more) after := by
  rw [Writes, Script.runAll, run_bind first, run_bind rest]
  rfl

theorem writes_one {node : Node} (ran : (node.run calls).run before = .ok (text, after)) :
    Writes calls [node] before text after := by
  have writes := writes_cons ran (writes_nil after)
  rwa [List.append_nil] at writes

theorem runAll_append (nodes others : List Node) :
    Script.runAll calls (nodes ++ others) = do
      let text ← Script.runAll calls nodes
      return text ++ (← Script.runAll calls others) := by
  induction nodes with
  | nil => simp [Script.runAll]
  | cons node nodes ih => simp [Script.runAll, ih, ← List.append_assoc]

theorem Writes.append {nodes others : List Node} (first : Writes calls nodes before text middle)
    (second : Writes calls others middle more after) :
    Writes calls (nodes ++ others) before (text ++ more) after := by
  rw [Writes, runAll_append, run_bind first, run_bind second]
  rfl

/-! ### The start of a loop's body -/

/-- A name of the innermost layer. -/
theorem find?_of_held {state : State} {layer : Layer} {outer : List Layer} {name : String}
    {value : Value} (records : state.records = []) (isLayers : state.layers = layer :: outer)
    (held : layer.names.lookup name = some value) : state.find? name = some value := by
  have here : layer.find? name = some value := by
    rw [Layer.find?, held]
    rfl
  rw [State.find?, isLayers, List.findSome?_cons, here]
  simp [State.latest, records]

/-- The value of a variable. -/
theorem run_variable (calls : Calls) (name : String) (state : State) :
    ((Expr.variable name).value calls).run state =
      .ok ((state.find? name).getD .undefined, state) := by
  rw [Expr.value]
  rfl

/-- The value of a member of what a loop is at. -/
theorem value_member (calls : Calls) {item : Item} {member : String} {value : Value} {state : State}
    (isItem : state.find? item.variableName = some item.value)
    (holds : item.value.member member = .ok value) :
    ((Path.expr ⟨item.variableName, some member⟩).value calls).run state = .ok (value, state) := by
  have owner : ((Expr.variable item.variableName).value calls).run state =
      .ok (item.value, state) := by
    rw [run_variable, isItem]
    rfl
  show ((Expr.attribute (.variable item.variableName) member).value calls).run state = _
  rw [Expr.value, run_bind owner, holds]
  rfl

/-- The assignments of a loop give its names their values, in the layer of the loop. -/
theorem writes_assigns {item : Item} {bindings : List (String × String)}
    {names : List (String × String)}
    (holds : List.Forall₂ (fun binding entry =>
      binding.1 = entry.1 ∧ item.value.member binding.2 = .ok (.ofName entry.2)) bindings names)
    (apart : ∀ entry ∈ names, item.variableName ≠ entry.1) (cycle : Option Cycle)
    (outer : List Layer) (state : State) (records : state.records = []) :
    ∀ held : List (String × Value), held.lookup item.variableName = some item.value →
      Writes calls
        (bindings.map fun (name, member) =>
          .assign (.name name) (Path.expr ⟨item.variableName, some member⟩))
        { state with layers := ⟨held, cycle, none⟩ :: outer } []
        { state with layers := ⟨(names.map fun entry => (entry.1, Value.ofName entry.2)).foldl
            (fun entries pair => Keyed.put pair.1 pair.2 entries) held, cycle, none⟩ ::
          outer } := by
  induction holds with
  | nil => exact fun held _ => writes_nil _
  | @cons binding entry bindings names here _ ih =>
    intro held isItem
    obtain ⟨name, member⟩ := binding
    obtain ⟨same, isMember⟩ := here
    have found : State.find? { state with layers := ⟨held, cycle, none⟩ :: outer }
        item.variableName = some item.value := find?_of_held records rfl isItem
    have rest := ih (fun other among => apart other (List.mem_cons_of_mem _ among))
      (Keyed.put entry.1 (.ofName entry.2) held)
      (by rw [Keyed.lookup_put_of_ne (apart entry List.mem_cons_self), isItem])
    have ran : (Node.run calls (.assign (.name name)
        (Path.expr ⟨item.variableName, some member⟩))).run
          { state with layers := ⟨held, cycle, none⟩ :: outer } =
        .ok ([], { state with
          layers := ⟨Keyed.put entry.1 (.ofName entry.2) held, cycle, none⟩ :: outer }) := by
      rw [Node.run, run_bind (value_member calls found isMember), ← same]
      rfl
    exact writes_cons ran rest

/-- The layer of a loop at an item, after its assignments. -/
def Item.layer (item : Item) (cycle : Option Cycle) : Layer where
  names := (item.names.map fun entry => (entry.1, .ofName entry.2)).foldl
    (fun entries pair => Keyed.put pair.1 pair.2 entries) [(item.variableName, item.value)]
  cycle

/-- After the assignments of a loop, its layer holds the names of what the loop is at. -/
theorem isAt_layer (item : Item) (cycle : Option Cycle) : item.IsAt (item.layer cycle) := by
  refine ⟨rfl, fun name => ?_⟩
  obtain ⟨missing, distinct⟩ := List.nodup_cons.mp item.values_nodup
  rw [Item.layer, Keyed.lookup_foldl_put, lookup_reverse_of_nodup name distinct, Item.values,
    List.lookup_cons]
  by_cases same : name = item.variableName
  · subst same
    rw [lookup_eq_none missing]
    simp
  · simp [List.lookup_cons, beq_false_of_ne same]

/-! ### Loops -/

/-- A state inside a loop: a layer more, and any number of loops that have been started. -/
def inLoop (outside : State) (layer : Layer) (loops : Nat) : State :=
  { outside with layers := layer :: outside.layers, depth := outside.depth + 1, loops }

/-- A loop at an item stands one place further in. -/
theorem PageContext.Stands.inLoop {context : PageContext} {scene : Scene} {state : State}
    {item : Item} {layer : Layer} (stands : context.Stands scene state) (isAt : item.IsAt layer)
    (loops : Nat) : context.Stands (item :: scene) (inLoop state layer loops) := by
  obtain ⟨⟨inner, isLayers, areAt⟩, depth, escapes, records⟩ := stands
  refine ⟨⟨layer :: inner, ?_, .cons isAt areAt⟩, ?_, escapes, records⟩
  · show layer :: state.layers = _
    rw [isLayers, List.cons_append]
  · show state.depth + 1 = _
    rw [depth, List.length_cons]

/-- Nodes that write a text for an item, whenever the loop comes to it. -/
def WritesAt (calls : Calls) (nodes : List Node) (outside : State) (item : Item)
    (text : List Char) : Prop :=
  ∀ cycle loops, ∃ layer loops', Writes calls nodes
    (inLoop outside ⟨[(item.variableName, item.value)], cycle, none⟩ loops) text
    (inLoop outside layer loops')

/-- A loop writes its body for one item after another. -/
theorem run_iterate {nodes : List Node} {outside : State} {variableName : String}
    {items : List Item} {text : Item → List Char}
    (named : ∀ item ∈ items, item.variableName = variableName)
    (writes : ∀ item ∈ items, WritesAt calls nodes outside item (text item)) :
    ∀ cycle index layer loops, ∃ layer' loops',
      (Script.iterate calls (Script.runAll calls nodes) (.name variableName) cycle index
        (items.map Item.value)).run (inLoop outside layer loops) =
      .ok (items.flatMap text, inLoop outside layer' loops') := by
  induction items with
  | nil => exact fun _ _ layer loops => ⟨layer, loops, rfl⟩
  | cons item items ih =>
    intro cycle index layer loops
    have isName := named item List.mem_cons_self
    let here : Cycle := { cycle with progress := { cycle.progress with index } }
    obtain ⟨layer', loops', body⟩ := writes item List.mem_cons_self (some here) loops
    obtain ⟨layer'', loops'', rest⟩ :=
      ih (fun other among => named other (List.mem_cons_of_mem _ among))
        (fun other among => writes other (List.mem_cons_of_mem _ among)) here (index + 1) layer'
        loops'
    refine ⟨layer'', loops'', ?_⟩
    have entered : (modify fun state : State =>
        state.modifyLayer fun _ => ⟨[], some here, none⟩ : Run Unit).run
          (inLoop outside layer loops) =
        .ok ((), inLoop outside ⟨[], some here, none⟩ loops) := rfl
    have assigned : (Script.Target.assign calls (.name variableName) item.value).run
          (inLoop outside ⟨[], some here, none⟩ loops) =
        .ok ((), inLoop outside ⟨[(item.variableName, item.value)], some here, none⟩ loops) := by
      rw [isName]
      rfl
    rw [List.map_cons, Script.iterate, run_bind entered, run_bind assigned, run_bind body,
      run_bind rest]
    rfl

/-- What is done in a layer of its own leaves the layers around it as they are. -/
theorem run_within {α : Type} {layer : Layer} {inner : Run α} {value : α}
    (room : before.depth ≤ Script.depthLimit)
    (ran : inner.run { before with layers := layer :: before.layers, depth := before.depth + 1 } =
      .ok (value, after)) :
    (Script.Run.within layer inner).run before =
      .ok (value, { after with layers := after.layers.tail, depth := before.depth }) := by
  have here : (get : Run State).run before = .ok (before, before) := rfl
  have opened : (set { before with layers := layer :: before.layers, depth := before.depth + 1 } :
      Run PUnit).run before =
      .ok ((), { before with layers := layer :: before.layers, depth := before.depth + 1 }) := rfl
  rw [Script.Run.within, run_bind here]
  simp only [if_neg (Nat.not_lt.mpr room)]
  rw [run_bind opened, run_bind ran]
  rfl

/-- **A loop over such items writes its body for each**, and leaves no layer behind. -/
theorem run_loop {nodes : List Node} {source : Path} {variableName : String}
    {items : List Item} {text : Item → List Char}
    (isSource : (source.expr.value calls).run before = .ok (.list (items.map Item.value), before))
    (room : before.depth ≤ Script.depthLimit)
    (named : ∀ item ∈ items, item.variableName = variableName)
    (writes : ∀ item ∈ items, WritesAt calls nodes before item (text item)) :
    ∃ after, State.Continues before after ∧
      (Node.run calls (.loop (Script.loopOver variableName source) nodes [])).run before =
        .ok (items.flatMap text, after) := by
  let head := Script.loopOver variableName source
  have isHead : (head.source.value calls).run before =
      .ok (.list (items.map Item.value), before) := isSource
  have passed : (head.items calls).run before = .ok (.list (items.map Item.value), before) := by
    rw [Script.LoopHead.items, run_bind isHead]
    rfl
  let begun : State := { before with loops := before.loops + 1 }
  obtain ⟨cycle, started⟩ : ∃ cycle, (Script.startCycle true (some (items.map Item.value).length)
      none).run before = .ok (cycle, begun) := ⟨_, rfl⟩
  obtain ⟨layer, loops, ran⟩ := run_iterate named writes cycle 0 ⟨[], some cycle, none⟩ begun.loops
  have begunRoom : begun.depth ≤ Script.depthLimit := room
  have looped : (Script.runLoop calls head nodes (Script.runAll calls nodes)
      (.list (items.map Item.value))).run before =
      .ok (items.flatMap text, { before with loops }) := by
    have isItems : (liftM (Value.list (items.map Item.value)).items : Run (List Value)).run before =
        .ok (items.map Item.value, before) := rfl
    rw [Script.runLoop, run_bind isItems]
    show (Script.startCycle true (some (items.map Item.value).length) none >>= _).run before = _
    rw [run_bind started]
    exact run_within begunRoom ran
  refine ⟨{ before with loops }, ⟨loops, rfl⟩, ?_⟩
  rw [Node.run, run_bind passed, run_bind looped]
  cases items with
  | nil => rfl
  | cons item items => rfl

end Writing

end CatalogPages
