/-
**The parser of templates.**

The parts of a template are read in order. A statement may open a block, which is closed by a
statement further on; the blocks that are open stand on a stack, innermost first.

* `OpenBlock`, `Frame`: an open block, with what was read before it;
* `parse`: the nodes of a template, with its named blocks.
-/

import CatalogPages.Script.Part
import CatalogPages.Script.Target

namespace CatalogPages.Script

/-- An open block, with what its statements have said and its finished branches, in reverse. -/
inductive OpenBlock where
  | loop (head : LoopHead)
  | loopElse (head : LoopHead) (body : List Node)
  | branch (finished : List (Expr × List Node)) (test : Expr)
  | otherwise (finished : List (Expr × List Node))
  | capture (target : Target) (filters : List (String × ArgumentList))
  | scope (assignments : List (Target × Expr))
  | autoescape (mode : Expr)
  | filtered (filters : List (String × ArgumentList))
  | block (name : String)
  | routine (signature : RoutineSignature)
  | callWith (callee : Expr) (arguments : ArgumentList) (signature : RoutineSignature)

/-- An open block, and the nodes read before it, in reverse. -/
structure Frame where
  block : OpenBlock
  before : List Node

/-- The nodes read so far, in reverse, the open blocks, and the named blocks. -/
structure Reading where
  done : List Node
  stack : List Frame
  /-- The names of blocks that have been opened. -/
  names : List String := []
  /-- The named blocks that have been closed. -/
  blocks : List (String × List Node) := []

/-- Adds a node. -/
def Reading.push (reading : Reading) (node : Node) : Reading :=
  { reading with done := node :: reading.done }

/-- Opens a block. -/
def Reading.openBlock (reading : Reading) (block : OpenBlock) : Reading :=
  { reading with done := [], stack := ⟨block, reading.done⟩ :: reading.stack }

/-- Begins another branch of the innermost block. -/
def Reading.nextBranch (reading : Reading) (block : OpenBlock) : Reading :=
  match reading.stack with
  | frame :: stack => { reading with done := [], stack := { frame with block } :: stack }
  | [] => reading

/-- Closes the innermost block, which makes a node. -/
def Reading.closeBlock (reading : Reading) (node : Node) : Reading :=
  match reading.stack with
  | frame :: stack => { reading with done := node :: frame.before, stack }
  | [] => reading

/-- Whether a routine is being read. -/
def Reading.inRoutine (reading : Reading) : Bool :=
  reading.stack.any fun frame => match frame.block with
    | .routine _ | .callWith .. => true
    | _ => false

/-! ### Statements -/

/-- The first statement of a loop, after its word. -/
def loopHead (depth : Nat) : Parser LoopHead := do
  let target ← targets
  expectWord "in"
  let source ← tupleOf (plainExpression depth)
  let condition ← if ← acceptWord "if" then some <$> expression depth else pure none
  let recursive ← acceptWord "recursive"
  return { target, source, condition, recursive }

/-- Filters with bars between them. -/
def filterChain (depth : Nat) : Parser (List (String × ArgumentList)) := do
  let one : Parser (String × ArgumentList) := do
    let name ← anyName
    return (name, ← optionalArguments (expression depth) (plainExpression depth))
  let first ← one
  let chain ← grow (fun chain => do
    if ← acceptMark "|" then return some ((← one) :: chain) else return none) [first]
  return chain.reverse

/-- An assignment after its word: a node, or a block whose text is the value. -/
def assignment (depth : Nat) (reading : Reading) : Parser Reading := do
  let inBrackets ← acceptMark "("
  let target ← if inBrackets then targetsInBrackets else openTargets
  if !inBrackets && (← atEnd) then return reading.openBlock (.capture target [])
  else if ← (if inBrackets then pure false else acceptMark "|") then
    let filters ← filterChain depth
    return reading.openBlock (.capture target filters)
  else
    expectMark "="
    return reading.push (.assign target (← tupleOf (expression depth)))

/-- The assignments of a block with names of its own. -/
def scopeAssignments (depth : Nat) : Parser (List (Target × Expr)) := do
  if ← atEnd then return []
  let one : Parser (Target × Expr) := do
    let target ← if ← acceptMark "(" then targetsInBrackets else Target.name <$> targetName
    expectMark "="
    return (target, ← expression depth)
  let first ← one
  let assignments ← grow (fun assignments => do
    if ← acceptMark "," then return some ((← one) :: assignments) else return none) [first]
  return assignments.reverse

/-- Words that say whether the names of the page are handed on, which they always are. -/
def skipContext : Parser Unit := do
  if (← acceptWord "with") || (← acceptWord "without") then expectWord "context"

/-- Another template in place of a statement. -/
def inclusion (depth : Nat) : Parser Node := do
  let name ← expression depth
  skipContext
  let lenient ← acceptWord "ignore"
  if lenient then
    expectWord "missing"
    skipContext
  return .includes name lenient

/-- All names of another template under one name. -/
def importing (depth : Nat) : Parser Node := do
  let template ← expression depth
  expectWord "as"
  let name ← targetName
  skipContext
  return .imports template name

/-- Some names of another template. -/
def importingNames (depth : Nat) : Parser Node := do
  let template ← expression depth
  expectWord "import"
  let atNamesEnd : Parser Bool := do
    match ← get with
    | [] | .name "with" :: _ | .name "without" :: _ => return true
    | _ => return false
  let names ← grow (fun names => do
    if ← atNamesEnd then return none
    let name ← targetName
    let other ← if ← acceptWord "as" then targetName else pure name
    if !(← acceptMark ",") && !(← atNamesEnd) then unexpected
    return some ((name, other) :: names)) []
  skipContext
  return .importsNames template names.reverse

/-- An expression that must be a call. -/
def callExpression (depth : Nat) : Parser (Expr × ArgumentList) := do
  match ← expression depth with
  | .call callee arguments => return (callee, arguments)
  | _ => throw .malformed

/-- The first statement of a named block, after its word. -/
def namedBlock (reading : Reading) : Parser Reading := do
  let name ← anyName
  if reading.inRoutine || reading.names.contains name then throw .malformed
  return { reading.openBlock (.block name) with names := name :: reading.names }

/-- The first statement of a routine, after its word. -/
def routineStart (depth : Nat) : Parser RoutineSignature := do
  let name ← anyName
  expectMark "("
  parametersUpToBracket (expression depth) name

/-- The first statement of a call with a block, after its word. -/
def callStart (depth : Nat) : Parser OpenBlock := do
  let signature ← if ← acceptMark "(" then parametersUpToBracket (expression depth) "caller"
    else pure ⟨"caller", [], []⟩
  let (callee, arguments) ← callExpression depth
  return .callWith callee arguments signature

/-- What a statement does that opens or is a node of its own. -/
def opening (word : String) (depth : Nat) (reading : Reading) : Parser Reading := do
  match word with
  | "for" => return reading.openBlock (.loop (← loopHead depth))
  | "if" => return reading.openBlock (.branch [] (← plainExpression depth))
  | "set" => assignment depth reading
  | "with" => return reading.openBlock (.scope (← scopeAssignments depth))
  | "autoescape" => return reading.openBlock (.autoescape (← expression depth))
  | "filter" => return reading.openBlock (.filtered (← filterChain depth))
  | "block" => namedBlock reading
  | "macro" => return reading.openBlock (.routine (← routineStart depth))
  | "call" => return reading.openBlock (← callStart depth)
  | "do" =>
    let (callee, arguments) ← callExpression depth
    return reading.push (.evaluate (.call callee arguments))
  | "include" => return reading.push (← inclusion depth)
  | "import" => return reading.push (← importing depth)
  | "from" => return reading.push (← importingNames depth)
  | "extends" => return reading.push (.extending (← expression depth))
  | _ => throw .malformed

/-- What a word does that closes a block or begins another branch of it, if it is such a word. -/
def closing? (block : OpenBlock) (word : String) (depth : Nat) (reading : Reading) :
    Option (Parser Reading) :=
  let body := reading.done.reverse
  match block, word with
  | .loop head, "else" => some (return reading.nextBranch (.loopElse head body))
  | .loop head, "endfor" => some (return reading.closeBlock (.loop head body []))
  | .loopElse head inner, "endfor" => some (return reading.closeBlock (.loop head inner body))
  | .branch finished test, "elif" => some do
    let next ← plainExpression depth
    return reading.nextBranch (.branch ((test, body) :: finished) next)
  | .branch finished test, "else" =>
    some (return reading.nextBranch (.otherwise ((test, body) :: finished)))
  | .branch finished test, "endif" =>
    some (return reading.closeBlock (.choose ((test, body) :: finished).reverse []))
  | .otherwise finished, "endif" =>
    some (return reading.closeBlock (.choose finished.reverse body))
  | .capture target filters, "endset" =>
    some (return reading.closeBlock (.capture target filters body))
  | .scope assignments, "endwith" =>
    some (return reading.closeBlock (.scope assignments body))
  | .autoescape mode, "endautoescape" =>
    some (return reading.closeBlock (.autoescape mode body))
  | .filtered filters, "endfilter" =>
    some (return reading.closeBlock (.filtered filters body))
  | .block name, "endblock" => some do
    match ← get with
    | .name repeated :: rest => if repeated = name then set rest else throw .malformed
    | _ => pure ()
    return { reading.closeBlock (.block name) with blocks := (name, body) :: reading.blocks }
  | .routine signature, "endmacro" =>
    some (return reading.closeBlock (.routine signature body))
  | .callWith callee arguments signature, "endcall" =>
    some (return reading.closeBlock (.callWith callee arguments signature body))
  | _, _ => none

/-- What a statement does, given its first word. A word that closes the innermost block or begins
another branch of it is looked for first. -/
def statement (word : String) (reading : Reading) : Parser Reading := do
  let levels := nestingLimit - reading.stack.length
  let closing := reading.stack.head?.bind fun frame => closing? frame.block word levels reading
  match closing, levels with
  | some closing, _ => closing
  | none, 0 => throw .malformed
  | none, levels + 1 => opening word levels reading

/-! ### Templates -/

/-- Reads code, of which nothing may be left. -/
def wholeCode (parser : Parser α) (code : List Token) : Except ScriptFault α :=
  match (do
    let result ← parser
    if ← atEnd then return result else unexpected : Parser α).run code with
  | .ok (result, _) => .ok result
  | .error fault => .error fault

/-- Reads one part. -/
def Reading.add (reading : Reading) : Part → Except ScriptFault Reading
  | .text [] => .ok reading
  | .text text => .ok (reading.push (.text text))
  | .output code => do
    let value ← wholeCode (tupleOf (expression (nestingLimit - reading.stack.length))) code
    return reading.push (.output value)
  | .statement code => wholeCode (do statement (← anyName) reading) code

/-- A template that has been read. -/
structure Template where
  nodes : List Node
  /-- The named blocks. -/
  blocks : List (String × List Node)

/-- The nodes of a template, and its named blocks. No block may be left open. -/
def parse (template : List Char) : Except ScriptFault Template := do
  let reading ← (parts template).foldlM Reading.add ⟨[], [], [], []⟩
  if reading.stack.isEmpty then return ⟨reading.done.reverse, reading.blocks⟩
  else throw .malformed

end CatalogPages.Script
