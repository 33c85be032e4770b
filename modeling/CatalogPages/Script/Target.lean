/-
**The parser of targets and of parameters.**

What stands to the left of an assignment, between `for` and `in`, and in the brackets of a routine.
-/

import CatalogPages.Script.Parser

namespace CatalogPages.Script

/-- Names that nothing may give a value to. -/
def reservedNames : List String :=
  ["true", "True", "false", "False", "none", "None", "loop", "self"]

/-- A name that is given a value. -/
def targetName : Parser String := do
  let name ← anyName
  if reservedNames.contains name then throw .malformed
  return name

/-- Whether no further target comes. -/
def atTargetsEnd : Parser Bool := do
  match ← get with
  | [] => return true
  | .symbol mark :: _ => return [")", "=", "|"].contains mark
  | .name word :: _ => return word == "in"
  | _ => return false

/-- The targets that follow a comma, in at most so many steps. -/
def targetsAfterComma (one : Parser Target) : (steps : Nat) → Parser (List Target)
  | 0 => unexpected
  | steps + 1 => do
    if ← atTargetsEnd then return []
    let target ← one
    if ← acceptMark "," then return target :: (← targetsAfterComma one steps) else return [target]

/-- One target, or several with commas between or after them; in at most so many steps. -/
def targetsOf (one : Parser Target) (steps : Nat) : Parser Target := do
  if ← atTargetsEnd then return .several []
  let first ← one
  if ← acceptMark "," then return .several (first :: (← targetsAfterComma one steps))
  else return first

/-- Targets, some of them between brackets of their own; in at most so many steps. -/
def targetsSteps : (steps : Nat) → Parser Target
  | 0 => unexpected
  | steps + 1 =>
    targetsOf (do
      if ← acceptMark "(" then
        let inner ← targetsSteps steps
        expectMark ")"
        return inner
      else return .name (← targetName)) steps

/-- Targets, some of them between brackets of their own. -/
def targets : Parser Target := do
  targetsSteps ((← get).length + 1)

/-- Targets between brackets, after the first bracket. -/
def targetsInBrackets : Parser Target := do
  let inner ← targets
  expectMark ")"
  return inner

/-- A name, or a member of what a name stands for. -/
def dottedTarget : Parser Target := do
  let name ← targetName
  let (owner, member) ← grow (fun (owner, member) => do
    if ← acceptMark "." then
      let next ← anyName
      let owner := match member with
        | some member => .attribute owner member
        | none => owner
      return some (owner, some next)
    else return none) (Expr.variable name, (none : Option String))
  match member with
  | some member => return .member owner member
  | none => return .name name

/-- Targets without brackets around them. -/
def openTargets : Parser Target := do
  targetsOf (do if ← acceptMark "(" then targetsInBrackets else dottedTarget) ((← get).length + 1)

/-- Parameters that have been read, in reverse. -/
structure Parameters where
  names : List String := []
  defaults : List Expr := []

/-- Another parameter. None without a value of its own follows one that has one. -/
def parameter (expression : Parser Expr) (parameters : Parameters) : Parser Parameters := do
  let name ← targetName
  let parameters := { parameters with names := name :: parameters.names }
  if ← acceptMark "=" then
    return { parameters with defaults := (← expression) :: parameters.defaults }
  else if parameters.defaults.isEmpty then return parameters
  else unexpected

/-- Parameters, up to the closing bracket. -/
def parametersUpToBracket (expression : Parser Expr) (name : String) : Parser RoutineSignature := do
  let parameters ← grow (fun parameters => do
    if ← acceptMark ")" then return none
    let parameters ← parameter expression parameters
    if !(← acceptMark ",") && !(← nextIsMark ")") then unexpected
    return some parameters) ({} : Parameters)
  return ⟨name, parameters.names.reverse, parameters.defaults.reverse⟩

end CatalogPages.Script
