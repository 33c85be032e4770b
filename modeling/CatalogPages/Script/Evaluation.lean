/-
**Running a script.**

* `Expr.value`: the value of an expression;
* `Node.run`: the text of a node;
* `Calls`: what a script reaches from elsewhere in itself: routines, the loop that is running, and
  named blocks; `Calls.within` follows so many of them into one another;
* `render`: the text of a template with a page's variables.
-/

import CatalogPages.Script.Filters
import CatalogPages.Script.Routine
import CatalogPages.Script.Template

namespace CatalogPages.Script

/-- What a script reaches from elsewhere in itself. -/
structure Calls where
  /-- Runs a routine, given its number. -/
  routine : Nat → Arguments → Run Value
  /-- Runs a loop inside itself. -/
  rerun : LoopHead → List Node → Value → Run (List Char)
  /-- Runs the nodes of a named block. -/
  block : List Node → Run (List Char)

/-! ### Calls -/

/-- The value of a call of a value. -/
def callValue (calls : Calls) (callee : Value) (arguments : Arguments) : Run Value := do
  match callee with
  | .routine number _ => calls.routine number arguments
  | .function .record => Run.newRecord (← taken recordFields arguments)
  | .function which => callBuiltin which arguments
  | .loop _ => throw .unknownFunction
  | _ => throw .invalidOperation

/-- The value of the running loop, run inside itself. -/
def callLoop (calls : Calls) (arguments : Arguments) : Run Value := do
  match arguments.values, ((← get).cycle?).bind Cycle.rerun with
  | [items], some (head, body) => Run.captured (← calls.rerun head body items)
  | _, _ => throw .invalidOperation

/-- The value of a call by name. -/
def callName (calls : Calls) (name : String) (arguments : Arguments) : Run Value := do
  if name = "loop" then callLoop calls arguments
  else if name = "super" then throw .invalidOperation
  else
    match (← get).find? name with
    | some callee => callValue calls callee arguments
    | none => throw .unknownFunction

/-- The text of a named block, as a value. -/
def callBlock (calls : Calls) (name : String) : Run Value := do
  match (← get).blocks.lookup name with
  | some body => Run.captured (← calls.block body)
  | none => throw .unknownBlock

/-- The value of a call of something that a value holds, or of what loops can be asked. -/
def callMember (calls : Calls) (owner : Value) (name : String) (arguments : Arguments) :
    Run Value := do
  match owner, name with
  | .loop progress, "cycle" =>
    let values := arguments.values
    return values[progress.index % values.length]?.getD .undefined
  | .loop progress, "changed" => return .bool (← Run.changed progress.loop arguments.values)
  | owner, name =>
    match owner.member? name with
    | some callee => callValue calls callee arguments
    | none => throw .unknownMethod

/-! ### Expressions -/

/-- Whether arguments are given by name, if only none of them. -/
def haveNames (arguments : ArgumentList) : Bool :=
  arguments.any fun (kind, _) => kind.hasName

/-- The entries of a value, as arguments by name. -/
def namedEntries (value : Value) : Except ScriptFault (List (Value × Value)) :=
  match value.entries? with
  | some entries => .ok entries
  | none => .error .invalidOperation

mutual

/-- The value of an expression. -/
def Expr.value (calls : Calls) : Expr → Run Value
  | .constant value => return value
  | .variable name => return ((← get).find? name).getD .undefined
  | .list items => return .list (← values calls items)
  | .map entries => return .map (← entryValues calls entries [])
  | .attribute of name => do (← of.value calls).member name
  | .item of index => do
    let container ← of.value calls
    container.item (← index.value calls)
  | .slice of start stop step => do
    let container ← of.value calls
    let start ← start.value calls
    let stop ← stop.value calls
    container.slice start stop (← step.value calls)
  | .unary op operand => do Value.unary op (← operand.value calls)
  | .binary op left right => do
    let first ← left.value calls
    let second ← right.value calls
    Value.binary (← get).escapes op first second
  | .both left right => do
    let first ← left.value calls
    if first.isTrue then right.value calls else return first
  | .either left right => do
    let first ← left.value calls
    if first.isTrue then return first else right.value calls
  | .compare first rest => do compared calls (← first.value calls) rest
  | .conditional test yes no => do
    if (← test.value calls).isTrue then yes.value calls else no.value calls
  | .filter name operand arguments => do
    let value ← operand.value calls
    let placed ← placedValues calls arguments
    let named ← namedValues calls arguments []
    applyFilter (← get).escapes name (if haveNames arguments then some named else none) placed value
  | .test name operand arguments => do
    let value ← operand.value calls
    let placed ← placedValues calls arguments
    let named ← namedValues calls arguments []
    return .bool (← applyTest name value ⟨placed, if haveNames arguments then some named else none⟩)
  | .call (.attribute (.variable "self") name) _ => callBlock calls name
  | .call (.variable name) arguments => do
    let placed ← placedValues calls arguments
    let named ← namedValues calls arguments []
    callName calls name ⟨placed, if haveNames arguments then some named else none⟩
  | .call (.attribute of name) arguments => do
    let owner ← of.value calls
    let placed ← placedValues calls arguments
    let named ← namedValues calls arguments []
    callMember calls owner name ⟨placed, if haveNames arguments then some named else none⟩
  | .call callee arguments => do
    let callee ← callee.value calls
    let placed ← placedValues calls arguments
    let named ← namedValues calls arguments []
    callValue calls callee ⟨placed, if haveNames arguments then some named else none⟩

/-- The values of expressions, in order. -/
def values (calls : Calls) : List Expr → Run (List Value)
  | [] => return []
  | item :: rest => do
    let value ← item.value calls
    return value :: (← values calls rest)

/-- The entries of a map, in the order of their keys. -/
def entryValues (calls : Calls) : List (Expr × Expr) → List (Value × Value) →
    Run (List (Value × Value))
  | [], entries => return entries
  | (key, value) :: rest, entries => do
    let key ← key.value calls
    entryValues calls rest (Value.put key (← value.value calls) entries)

/-- Whether a value and the values after it stand to each other as they are asked to. The first that
does not decides. -/
def compared (calls : Calls) (left : Value) : List (Comparison × Expr) → Run Value
  | [] => return .bool true
  | (comparison, right) :: rest => do
    let right ← right.value calls
    if ← Value.compare comparison left right then compared calls right rest else return .bool false

/-- The arguments that are given by their places. -/
def placedValues (calls : Calls) : List (ArgumentKind × Expr) → Run (List Value)
  | [] => return []
  | (.placed, item) :: rest => do
    let value ← item.value calls
    return value :: (← placedValues calls rest)
  | (.items, item) :: rest => do
    let items ← (← item.value calls).items
    return items ++ (← placedValues calls rest)
  | (.named _, _) :: rest | (.entries, _) :: rest => placedValues calls rest

/-- The arguments that are given by name, in the order of their names. -/
def namedValues (calls : Calls) : List (ArgumentKind × Expr) → List (Value × Value) →
    Run (List (Value × Value))
  | [], entries => return entries
  | (.named name, value) :: rest, entries => do
    namedValues calls rest (Value.put (.ofName name) (← value.value calls) entries)
  | (.entries, value) :: rest, entries => do
    let more ← namedEntries (← value.value calls)
    namedValues calls rest (more.foldl (fun all (key, value) => Value.put key value all) entries)
  | (.placed, _) :: rest, entries | (.items, _) :: rest, entries => namedValues calls rest entries

end

/-! ### Assignments -/

/-- Sets a member of a record. -/
def setMember (owner : Value) (name : String) (value : Value) : Run Unit := do
  match owner with
  | .record number _ => modify fun state => state.setField number name value
  | _ => throw .invalidOperation

/-- The items that a value is taken apart into. -/
def unpacked (value : Value) : Except ScriptFault (List Value) :=
  match value with
  | .text .. | .undefined | .none => .error .cannotUnpack
  | value =>
    match value.items? with
    | some items => .ok items
    | none => .error .cannotUnpack

mutual

/-- Gives a value to a target; several targets take as many items. -/
def Target.assign (calls : Calls) : Target → Value → Run Unit
  | .name name, value => modify fun state => state.assign name value
  | .several targets, value => do
    assignAll calls targets (← unpacked value)
  | .member of name, value => do setMember (← of.value calls) name value

/-- Gives items to targets, one each. -/
def assignAll (calls : Calls) : List Target → List Value → Run Unit
  | [], [] => return
  | target :: targets, item :: items => do
    target.assign calls item
    assignAll calls targets items
  | _, _ => throw .cannotUnpack

end

/-- Makes assignments one after another. -/
def assignEach (calls : Calls) : List (Target × Expr) → Run Unit
  | [] => return
  | (target, value) :: rest => do
    target.assign calls (← value.value calls)
    assignEach calls rest

/-- The value that filters make one after another. -/
def filtered (calls : Calls) : List (String × ArgumentList) → Value → Run Value
  | [], value => return value
  | (name, arguments) :: rest, value => do
    let filter : Expr := .filter name (.constant value) arguments
    filtered calls rest (← filter.value calls)

/-! ### Loops -/

/-- The items for which a condition holds. -/
def holding (calls : Calls) (head : LoopHead) (condition : Expr) : List Value → Run (List Value)
  | [] => return []
  | item :: rest => do
    modify fun state => state.modifyLayer fun layer => { layer with names := [], closure := none }
    head.target.assign calls item
    let kept ← condition.value calls
    let more ← holding calls head condition rest
    return if kept.isTrue then item :: more else more

/-- A loop as it tells about itself at its start. -/
def startCycle (isNamed : Bool) (count : Option Nat) (rerun : Option (LoopHead × List Node)) :
    Run Cycle := do
  let (loop, depth) ← Run.newLoop
  return ⟨⟨loop, 0, count, depth⟩, isNamed, rerun⟩

/-- What a loop goes through: the items of a value, or those for which the condition holds. -/
def LoopHead.items (calls : Calls) (head : LoopHead) : Run Value := do
  let source ← head.source.value calls
  match head.condition with
  | none => return source
  | some condition =>
    let items ← source.items
    let cycle ← startCycle false (some items.length) none
    return .list (← Run.within ⟨[], some cycle, none⟩ (holding calls head condition items))

/-- The text of a body for each item, in a layer without names. -/
def iterate (calls : Calls) (body : Run (List Char)) (target : Target) (cycle : Cycle) :
    (index : Nat) → List Value → Run (List Char)
  | _, [] => return []
  | index, item :: rest => do
    let cycle := { cycle with progress := { cycle.progress with index } }
    modify fun state => state.modifyLayer fun _ => ⟨[], some cycle, none⟩
    target.assign calls item
    let text ← body
    return text ++ (← iterate calls body target cycle (index + 1) rest)

/-- The text of a loop over the items of a value. -/
def runLoop (calls : Calls) (head : LoopHead) (nodes : List Node) (body : Run (List Char))
    (source : Value) : Run (List Char) := do
  let items ← source.items
  let count := if source.isCounted then some items.length else none
  let cycle ← startCycle true count (if head.recursive then some (head, nodes) else none)
  Run.within ⟨[], some cycle, none⟩ (iterate calls body head.target cycle 0 items)

/-! ### Nodes -/

/-- Whether values are to be written with entities. -/
def escapeMode : Value → Except ScriptFault Bool
  | .text "html" _ => .ok true
  | .text "none" _ => .ok false
  | .text .. => .error .invalidOperation
  | value => .ok (value.equal (.bool true))

/-- There are no templates but the one that is running, so that none can be included. Names are
tried in order; where there is none to try, nothing is included. -/
def missingTemplate (lenient : Bool) (name : Value) : Except ScriptFault Unit :=
  let tried (names : List Value) : Except ScriptFault Unit :=
    if names.any fun name => name.text?.isNone then .error .invalidOperation
    else if names.isEmpty || lenient then .ok () else .error .templateNotFound
  match name with
  | .undefined | .none | .text .. => tried [name]
  | .function _ => tried []
  | name =>
    match name.items? with
    | some names => tried names
    | none => .error .invalidOperation

/-- A template cannot extend itself, and there is no other. -/
def missingParent (page : String) (name : Value) : ScriptFault :=
  match name with
  | .text name _ => if name = page then .invalidOperation else .templateNotFound
  | _ => .invalidOperation

/-- Gives names that another template was to give values to the values that they have here. -/
def importNames (names : ImportedNames) : Run Unit := do
  let state ← get
  names.forM fun (name, other) =>
    modify fun after => after.assign other ((state.find? name).getD .undefined)

mutual

/-- The text of a node. -/
def Node.run (calls : Calls) : Node → Run (List Char)
  | .text text => return text
  | .output value => do
    let value ← value.value calls
    return value.onPage (← get).escapes
  | .loop head body otherwise => do
    let source ← head.items calls
    let text ← runLoop calls head body (runAll calls body) source
    if (source.items?.getD []).isEmpty then runAll calls otherwise else return text
  | .choose branches otherwise => do
    match ← runBranches calls branches with
    | some text => return text
    | none => runAll calls otherwise
  | .assign target value => do
    target.assign calls (← value.value calls)
    return []
  | .capture target filters body => do
    let text ← Run.captured (← runAll calls body)
    target.assign calls (← filtered calls filters text)
    return []
  | .scope assignments body =>
    Run.within ⟨[], none, none⟩ do
      assignEach calls assignments
      runAll calls body
  | .autoescape mode body => do
    let escapes ← escapeMode (← mode.value calls)
    let before ← get
    set { before with escapes }
    let text ← runAll calls body
    modify fun state => { state with escapes := before.escapes }
    return text
  | .filtered filters body => do
    let value ← filtered calls filters (← Run.captured (← runAll calls body))
    return value.onPage (← get).escapes
  | .block name => do
    match (← get).blocks.lookup name with
    | some body => calls.block body
    | none => throw .unknownBlock
  | .routine signature body => do
    let routine ← Run.newRoutine signature body
    modify fun state => state.assign signature.name routine
    return []
  | .callWith callee arguments signature body => do
    let routine ← Run.newRoutine signature body
    let call : Expr := .call callee (arguments ++ [(.named "caller", .constant routine)])
    let value ← call.value calls
    return value.onPage (← get).escapes
  | .evaluate call => do
    let _ ← call.value calls
    return []
  | .includes name lenient => do
    missingTemplate lenient (← name.value calls)
    return []
  | .imports template name => do
    missingTemplate false (← template.value calls)
    modify fun state => state.assign name (.map [])
    return []
  | .importsNames template names => do
    missingTemplate false (← template.value calls)
    importNames names
    return []
  | .extending name => do throw (missingParent (← get).page (← name.value calls))

/-- The text of nodes, one after another. -/
def runAll (calls : Calls) : List Node → Run (List Char)
  | [] => return []
  | node :: rest => do
    let text ← node.run calls
    return text ++ (← runAll calls rest)

/-- The text of the first branch whose condition holds. -/
def runBranches (calls : Calls) : List (Expr × List Node) → Run (Option (List Char))
  | [] => return none
  | (test, body) :: rest => do
    if (← test.value calls).isTrue then return some (← runAll calls body)
    else runBranches calls rest

end

/-! ### Routines, loops and blocks that are called -/

/-- How many layers a routine takes of those that there may be. -/
def routineDepth : Nat := 5

/-- Gives values to parameters, and to those that are undefined what stands for them. -/
def assignParameters (calls : Calls) : List ((String × Value) × Option Expr) → Run Unit
  | [] => return
  | ((name, value), default) :: rest => do
    let value ← match value, default with
      | .undefined, some default => default.value calls
      | value, _ => pure value
    modify fun state => state.assign name value
    assignParameters calls rest

/-- The text of a routine, with the names that it sees and none else. -/
def runRoutine (calls : Calls) (routine : Routine) (arguments : Arguments) : Run (List Char) := do
  let values ← bindArguments routine arguments
  let before ← get
  let names := (before.closures[routine.closure]?.getD []).filter fun (name, _) =>
    name != "caller" && !routine.signature.parameters.contains name
  if depthLimit < before.depth + routineDepth then throw .invalidOperation
  set { before with
    layers := [⟨[], none, none⟩, ⟨names, none, none⟩]
    depth := before.depth + routineDepth
    blocks := [] }
  if routine.callsBack then
    let caller := (Value.lookup (.ofName "caller") (arguments.named.getD [])).getD .undefined
    modify fun state => state.assign "caller" caller
  assignParameters calls (backwards routine.signature values)
  let text ← runAll calls routine.body
  modify fun after =>
    { after with layers := before.layers, depth := before.depth, blocks := before.blocks }
  return text

/-- What a script reaches from elsewhere in itself, with so many calls inside one another. -/
def Calls.within : (levels : Nat) → Calls
  | 0 => ⟨fun _ _ => throw .invalidOperation, fun _ _ _ => throw .invalidOperation,
      fun _ => throw .invalidOperation⟩
  | levels + 1 =>
    let calls := Calls.within levels
    { routine := fun number arguments => do
        match (← get).routines[number]? with
        | some routine => Run.captured (← runRoutine calls routine arguments)
        | none => throw .invalidOperation
      rerun := fun head body source => runLoop calls head body (runAll calls body) source
      block := fun body => Run.within ⟨[], none, none⟩ (runAll calls body) }

/-- The text of a template by a page's name, with the page's variables. -/
def render (page : String) (named : List (String × Value)) (template : List Char) :
    Except ScriptFault (List Char) := do
  let template ← parse template
  let calls := Calls.within (depthLimit + 1)
  let start : State := { layers := [⟨named, none, none⟩], page, blocks := template.blocks }
  let (text, _) ← (runAll calls template.nodes).run start
  return text

end CatalogPages.Script
