/-
**The parser of expressions.**

Expressions have twelve levels: a condition after a value, `or`, `and`, `not`, comparisons, sums,
`~`, products, powers, a sign, what follows a value (members, items, arguments), and filters and
tests. Statements, expressions and values may be nested up to a limit.

* `primary`, `expression`: a value and an expression, with so many levels left;
* `plainExpression`: an expression that is no condition after a value.
-/

import CatalogPages.Script.Expr
import CatalogPages.Script.Token

namespace CatalogPages.Script

/-- Takes tokens from the front of code, or fails. -/
abbrev Parser := StateT (List Token) (Except ScriptFault)

/-- How deep statements, expressions and values may be nested. -/
def nestingLimit : Nat := 150

/-- How many arguments may be given. -/
def argumentLimit : Nat := 2000

/-- The fault where the next token is not one that may come. -/
def unexpected : Parser α := do
  match ← get with
  | .flaw fault :: _ => throw fault
  | _ => throw .malformed

/-- Whether a mark comes next. -/
def nextIsMark (mark : String) : Parser Bool := do
  match ← get with
  | .symbol next :: _ => return next == mark
  | _ => return false

/-- Takes a mark if it comes next, and tells whether it did. -/
def acceptMark (mark : String) : Parser Bool := do
  match ← get with
  | .symbol next :: rest =>
    if next = mark then
      set rest
      return true
    else return false
  | _ => return false

/-- Takes a word if it comes next, and tells whether it did. -/
def acceptWord (word : String) : Parser Bool := do
  match ← get with
  | .name next :: rest =>
    if next = word then
      set rest
      return true
    else return false
  | _ => return false

/-- Takes a mark that must come next. -/
def expectMark (mark : String) : Parser Unit := do
  if !(← acceptMark mark) then unexpected

/-- Takes a word that must come next. -/
def expectWord (word : String) : Parser Unit := do
  if !(← acceptWord word) then unexpected

/-- Takes a name that must come next. -/
def anyName : Parser String := do
  match ← get with
  | .name name :: rest => set rest; return name
  | _ => unexpected

/-- Whether no code is left. -/
def atEnd : Parser Bool := do
  return (← get).isEmpty

/-- Repeats a step that may stop, at most so many times. -/
def growSteps (step : α → Parser (Option α)) : Nat → α → Parser α
  | 0, value => return value
  | steps + 1, value => do
    match ← step value with
    | some next => growSteps step steps next
    | none => return value

/-- Repeats a step that takes tokens until it stops. -/
def grow (step : α → Parser (Option α)) (value : α) : Parser α := do
  growSteps step ((← get).length + 1) value

/-- Values with commas between them, up to a closing mark; a comma may follow the last. -/
def commaSeparated (item : Parser α) (closing : String) : Parser (List α) := do
  let items ← grow (fun items => do
    if ← acceptMark closing then return none
    let items := (← item) :: items
    if !(← acceptMark ",") && !(← nextIsMark closing) then unexpected
    return some items) []
  return items.reverse

/-! ### Operators -/

/-- Operators of one level, all of which group to the left. -/
def leftLevel (ops : List (String × BinaryOp)) (operand : Parser Expr) : Parser Expr := do
  let first ← operand
  grow (fun left => do
    match ← get with
    | .symbol mark :: rest =>
      match ops.lookup mark with
      | some op =>
        set rest
        return some (.binary op left (← operand))
      | none => return none
    | _ => return none) first

/-- An operator that is a word. -/
def wordLevel (word : String) (join : Expr → Expr → Expr) (operand : Parser Expr) :
    Parser Expr := do
  let first ← operand
  grow (fun left => do
    if ← acceptWord word then return some (join left (← operand)) else return none) first

/-- How often a step succeeds in a row. -/
def countWhile (step : Parser Bool) : Parser Nat :=
  grow (fun count => do if ← step then return some (count + 1) else return none) 0

/-- An expression with so many operators before it. -/
def applyUnary (op : UnaryOp) : Nat → Expr → Expr
  | 0, operand => operand
  | count + 1, operand => .unary op (applyUnary op count operand)

/-- The comparisons that are marks. -/
def comparisonMarks : List (String × Comparison) := [
  ("==", .equal), ("!=", .unequal), ("<", .less), ("<=", .atMost), (">", .greater),
  (">=", .atLeast)]

/-- Takes a comparison if one comes next. -/
def comparison? : Parser (Option Comparison) := do
  match ← get with
  | .symbol mark :: rest =>
    match comparisonMarks.lookup mark with
    | some comparison => set rest; return some comparison
    | none => return none
  | .name "in" :: rest => set rest; return some .isIn
  | .name "not" :: rest =>
    set rest
    expectWord "in"
    return some .isNotIn
  | _ => return none

/-- Values that are each compared with the next one, if there are several. -/
def comparisonLevel (operand : Parser Expr) : Parser Expr := do
  let first ← operand
  let rest ← grow (fun rest => do
    match ← comparison? with
    | some comparison => return some ((comparison, ← operand) :: rest)
    | none => return none) []
  return if rest.isEmpty then first else .compare first rest.reverse

/-- The levels from `or` to powers, over the level of signs. -/
def operatorLevels (signed : Parser Expr) : Parser Expr :=
  let powers := leftLevel [("**", .power)] signed
  let products := leftLevel
    [("*", .multiply), ("/", .divide), ("//", .floorDivide), ("%", .remainder)] powers
  let concats := leftLevel [("~", .concat)] products
  let sums := leftLevel [("+", .add), ("-", .subtract)] concats
  let negations : Parser Expr := do
    let count ← countWhile (acceptWord "not")
    return applyUnary .not count (← comparisonLevel sums)
  wordLevel "or" .either (wordLevel "and" .both negations)

/-- A value under a condition: what it is if the condition holds and, after `else`, what it is
otherwise; in at most so many steps. -/
def conditionalSteps (inner : Parser Expr) : Nat → Parser Expr
  | 0 => unexpected
  | steps + 1 => do
    let first ← inner
    grow (fun value => do
      if ← acceptWord "if" then
        let test ← inner
        let no ← if ← acceptWord "else" then conditionalSteps inner steps
          else pure (.constant .undefined)
        return some (.conditional test value no)
      else return none) first

/-- An expression over the level of signs. -/
def expressionOver (signed : Parser Expr) : Parser Expr := do
  conditionalSteps (operatorLevels signed) ((← get).length + 1)

/-! ### Arguments -/

/-- An argument. One that is given by name is no condition after a value. -/
def argument (expression plain : Parser Expr) : Parser (ArgumentKind × Expr) := do
  if ← acceptMark "**" then return (.entries, ← expression)
  else if ← acceptMark "*" then return (.items, ← expression)
  else
    match ← expression with
    | .variable name =>
      if ← acceptMark "=" then return (.named name, ← plain) else return (.placed, .variable name)
    | value => return (.placed, value)

/-- Whether an argument is given by name. -/
def ArgumentKind.hasName : ArgumentKind → Bool
  | named _ | entries => true
  | placed | items => false

/-- No argument stands by its place after one that is given by name, and no name is repeated. -/
def inOrder : List ArgumentKind → Bool
  | [] => true
  | kind :: rest =>
    let repeats := match kind with
      | .named _ => rest.contains kind
      | _ => false
    !repeats && !(kind.hasName && rest.contains .placed) && inOrder rest

/-- Arguments in round brackets. -/
def arguments (expression plain : Parser Expr) : Parser ArgumentList := do
  expectMark "("
  let arguments ← commaSeparated (argument expression plain) ")"
  if argumentLimit < arguments.length || !inOrder (arguments.map Prod.fst) then
    throw .malformed
  return arguments

/-- Arguments in round brackets, or none. -/
def optionalArguments (expression plain : Parser Expr) : Parser ArgumentList := do
  if ← nextIsMark "(" then arguments expression plain else return []

/-! ### Values -/

/-- What stands between square brackets after a value: the key of an item, or the bounds of a
slice. -/
def subscript (expression : Parser Expr) (value : Expr) : Parser Expr := do
  let missing : Expr := .constant .none
  let bound (closings : List String) : Parser Expr := do
    if ← closings.anyM nextIsMark then return missing else expression
  let start ← if ← nextIsMark ":" then pure none else some <$> expression
  if ← acceptMark ":" then
    let stop ← bound ["]", ":"]
    let step ← if ← acceptMark ":" then bound ["]"] else pure missing
    expectMark "]"
    return .slice value (start.getD missing) stop step
  else
    expectMark "]"
    match start with
    | some index => return .item value index
    | none => throw .malformed

/-- Members, items and arguments after a value. -/
def postfixes (expression plain : Parser Expr) (value : Expr) : Parser Expr :=
  grow (fun value => do
    match ← get with
    | .symbol "." :: .integer index :: rest =>
      set rest
      return some (.item value (.constant (.integer index)))
    | .symbol "." :: rest =>
      set rest
      return some (.attribute value (← anyName))
    | .symbol "[" :: rest =>
      set rest
      return some (← subscript expression value)
    | .symbol "(" :: _ => return some (.call value (← arguments expression plain))
    | _ => return none) value

/-- Whether a value comes next that a test may take without brackets. -/
def nextIsOperand : Parser Bool := do
  match ← get with
  | .name word :: _ => return !(["and", "or", "else", "is"].contains word)
  | .text _ :: _ | .integer _ :: _ | .real _ :: _ => return true
  | .symbol mark :: _ => return ["+", "-", "[", "\x7b"].contains mark
  | _ => return false

/-- A value with signs before it. -/
def signedValue (primary : Parser Expr) : Parser Expr := do
  let count ← countWhile (acceptMark "-")
  return applyUnary .negate count (← primary)

/-- The arguments of a test: in brackets, or one without. -/
def testArguments (primary expression plain : Parser Expr) : Parser ArgumentList := do
  if ← nextIsMark "(" then arguments expression plain
  else if ← nextIsOperand then
    let value ← signedValue primary
    return [(.placed, ← postfixes expression plain value)]
  else return []

/-- Filters and tests after a value. -/
def filters (primary expression plain : Parser Expr) (value : Expr) : Parser Expr :=
  grow (fun value => do
    if ← acceptMark "|" then
      let name ← anyName
      return some (.filter name value (← optionalArguments expression plain))
    else if ← acceptWord "is" then
      let negated ← acceptWord "not"
      let name ← anyName
      let tested := .test name value (← testArguments primary expression plain)
      return some (if negated then .unary .not tested else tested)
    else return none) value

/-- The level of signs, over values. A sign belongs to its value before what follows the value. -/
def signedSteps (primary expression : Parser Expr) : (steps : Nat) → Parser Expr
  | 0 => unexpected
  | steps + 1 => do
    let plain := operatorLevels (signedSteps primary expression steps)
    let value ← signedValue primary
    filters primary expression plain (← postfixes expression plain value)

/-- The level of signs, over values. -/
def signedOver (primary expression : Parser Expr) : Parser Expr := do
  signedSteps primary expression ((← get).length + 1)

/-- What a word stands for. -/
def wordValue (word : String) : Expr :=
  if word = "true" ∨ word = "True" then .constant (.bool true)
  else if word = "false" ∨ word = "False" then .constant (.bool false)
  else if word = "none" ∨ word = "None" then .constant .none
  else .variable word

/-- What stands in round brackets: a value, or a list of values with commas. -/
def roundBrackets (expression : Parser Expr) : Parser Expr := do
  if ← acceptMark ")" then return .list []
  let first ← expression
  if ← acceptMark "," then return .list (first :: (← commaSeparated expression ")"))
  else
    expectMark ")"
    return first

/-- An entry of a map. -/
def mapEntry (expression : Parser Expr) : Parser (Expr × Expr) := do
  let key ← expression
  expectMark ":"
  return (key, ← expression)

/-- A text with the texts that follow it directly. -/
def adjacentTexts (first : String) : Parser Expr := do
  let text ← grow (fun text => do
    match ← get with
    | .text more :: rest => set rest; return some (text ++ more)
    | _ => return none) first
  return .constant (.text text false)

/-- A value without operators. -/
def primaryOver (expression : Parser Expr) : Parser Expr := do
  match ← get with
  | .name word :: rest => set rest; return wordValue word
  | .text value :: rest => set rest; adjacentTexts value
  | .integer value :: rest => set rest; return .constant (.integer value)
  | .real value :: rest => set rest; return .constant (.real value)
  | .symbol "(" :: rest => set rest; roundBrackets expression
  | .symbol "[" :: rest => set rest; return .list (← commaSeparated expression "]")
  | .symbol "\x7b" :: rest =>
    set rest
    return .map (← commaSeparated (mapEntry expression) "\x7d")
  | _ => unexpected

mutual

/-- A value without operators, with so many levels left. -/
def primary : (depth : Nat) → Parser Expr
  | 0 => unexpected
  | depth + 1 => primaryOver (expression depth)

/-- An expression with so many levels left. -/
def expression : (depth : Nat) → Parser Expr
  | 0 => unexpected
  | depth + 1 => expressionOver (signedOver (primary depth) (expression depth))

end

/-- An expression that is no condition after a value, with so many levels left. -/
def plainExpression (depth : Nat) : Parser Expr :=
  operatorLevels (signedOver (primary depth) (expression depth))

/-- An expression, or several with commas between them, which make a list. -/
def tupleOf (expression : Parser Expr) : Parser Expr := do
  let first ← expression
  if ← nextIsMark "," then
    let items ← grow (fun items => do
      if ← acceptMark "," then
        if ← atEnd then return none else return some ((← expression) :: items)
      else return none) [first]
    return .list items.reverse
  else return first

end CatalogPages.Script
