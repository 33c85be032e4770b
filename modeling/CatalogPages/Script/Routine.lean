/-
**Routines of a script.**

* `mentionsCaller`: whether a routine calls the block that it is called with;
* `bindArguments`: the values of a routine's parameters.
-/

import CatalogPages.Script.Scope

namespace CatalogPages.Script

mutual

/-- Whether an expression asks for the block that a routine is called with. -/
def Expr.mentionsCaller : Expr → Bool
  | .constant _ => false
  | .variable name => name == "caller"
  | .list items => anyMentions items
  | .map entries => entriesMention entries
  | .attribute of _ | .unary _ of => of.mentionsCaller
  | .item of index => of.mentionsCaller || index.mentionsCaller
  | .slice of start stop step =>
    of.mentionsCaller || start.mentionsCaller || stop.mentionsCaller || step.mentionsCaller
  | .binary _ left right | .both left right | .either left right =>
    left.mentionsCaller || right.mentionsCaller
  | .compare first rest => first.mentionsCaller || comparedMention rest
  | .conditional test yes no => test.mentionsCaller || yes.mentionsCaller || no.mentionsCaller
  | .filter _ operand arguments | .test _ operand arguments | .call operand arguments =>
    operand.mentionsCaller || argumentsMention arguments

def anyMentions : List Expr → Bool
  | [] => false
  | item :: rest => item.mentionsCaller || anyMentions rest

def entriesMention : List (Expr × Expr) → Bool
  | [] => false
  | (key, value) :: rest => key.mentionsCaller || value.mentionsCaller || entriesMention rest

def comparedMention : List (Comparison × Expr) → Bool
  | [] => false
  | (_, value) :: rest => value.mentionsCaller || comparedMention rest

def argumentsMention : List (ArgumentKind × Expr) → Bool
  | [] => false
  | (_, value) :: rest => value.mentionsCaller || argumentsMention rest

end

/-- Whether one of some filters asks for it. -/
def filtersMention (filters : List (String × ArgumentList)) : Bool :=
  filters.any fun filter => argumentsMention filter.2

mutual

/-- Whether a node asks for the block that a routine is called with. The body of another routine
asks for its own. -/
def Node.mentionsCaller : Node → Bool
  | .text _ | .block _ | .routine .. => false
  | .output value | .assign _ value | .evaluate value | .includes value _ | .imports value _
  | .importsNames value _ | .extending value => value.mentionsCaller
  | .loop head body otherwise =>
    head.source.mentionsCaller || head.condition.any Expr.mentionsCaller ||
      mentionsCaller body || mentionsCaller otherwise
  | .choose branches otherwise => branchesMention branches || mentionsCaller otherwise
  | .capture _ filters body | .filtered filters body =>
    filtersMention filters || mentionsCaller body
  | .scope assignments body =>
    assignments.any (fun assignment => assignment.2.mentionsCaller) || mentionsCaller body
  | .autoescape mode body => mode.mentionsCaller || mentionsCaller body
  | .callWith callee arguments _ _ => callee.mentionsCaller || argumentsMention arguments

/-- Whether one of some nodes asks for it. -/
def mentionsCaller : List Node → Bool
  | [] => false
  | node :: rest => node.mentionsCaller || mentionsCaller rest

/-- Whether one of some branches asks for it. -/
def branchesMention : List (Expr × List Node) → Bool
  | [] => false
  | (test, body) :: rest => test.mentionsCaller || mentionsCaller body || branchesMention rest

end

/-- Whether a routine calls the block that it is called with. -/
def RoutineSignature.callsBack (signature : RoutineSignature) (body : List Node) : Bool :=
  !signature.parameters.contains "caller" &&
    (signature.defaults.any Expr.mentionsCaller || mentionsCaller body)

/-- What can be seen of a routine. -/
def Routine.head (routine : Routine) : RoutineHead :=
  ⟨routine.signature.name, routine.signature.parameters, routine.callsBack⟩

/-- Makes a routine that sees the names of the innermost layer. -/
def Run.newRoutine (signature : RoutineSignature) (body : List Node) : Run Value := do
  let closure ← closureHere
  let routine : Routine := ⟨signature, signature.callsBack body, body, closure⟩
  let number := (← get).routines.length
  modify fun state => { state with routines := state.routines ++ [routine] }
  return .routine number routine.head

/-- The value of a parameter, which is given by its place or by its name, but not by both. -/
def parameterValue (named : List (Value × Value)) (placed : Option Value) (name : String) :
    Except ScriptFault Value :=
  match placed, Value.lookup (.ofName name) named with
  | some _, some _ => .error .tooManyArguments
  | some value, none | none, some value => .ok value
  | none, none => .ok .undefined

/-- The values of parameters, in order. -/
def parameterValues (named : List (Value × Value)) : List Value → List String →
    Except ScriptFault (List Value)
  | _ :: _, [] => .error .tooManyArguments
  | [], [] => .ok []
  | placed, name :: names => do
    let value ← parameterValue named placed.head? name
    return value :: (← parameterValues named placed.tail names)

/-- The names that a routine can be given values by. -/
def Routine.names (routine : Routine) : List String :=
  if routine.callsBack then "caller" :: routine.signature.parameters
  else routine.signature.parameters

/-- The values of a routine's parameters. There may be no more values than parameters, and none by
another name. -/
def bindArguments (routine : Routine) (arguments : Arguments) :
    Except ScriptFault (List Value) := do
  let named := arguments.named.getD []
  if routine.signature.parameters.length < arguments.placed.length then throw .tooManyArguments
  let values ← parameterValues named arguments.placed routine.signature.parameters
  if named.any fun entry => entry.1.text?.any fun name => !routine.names.contains name then
    throw .tooManyArguments
  return values

/-- Parameters with their values and with what stands for those that are undefined, last first. -/
def backwards (signature : RoutineSignature) (values : List Value) :
    List ((String × Value) × Option Expr) :=
  let named := (signature.parameters.zip values).reverse
  let defaults := signature.defaults.reverse.map some
  named.zip (defaults ++ List.replicate (named.length - defaults.length) none)

end CatalogPages.Script
