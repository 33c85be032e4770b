/-
**Operators on values.**

Texts and lists can be joined and repeated, and searched for a value; the rest is arithmetic and
order.

* `Value.binary`, `Value.unary`: the operators that compute;
* `Value.compare`: the comparisons.
-/

import CatalogPages.Script.Arithmetic
import CatalogPages.Script.Expr
import CatalogPages.Script.Markup
import CatalogPages.Text.Search

namespace CatalogPages.Script.Value

/-- How often something is to be repeated. -/
def times (value : Value) : Except ScriptFault Nat :=
  match value.whole? with
  | some n => if n < 0 then .error .invalidOperation else .ok n.toNat
  | Option.none => .error .invalidOperation

/-- Items repeated. -/
def repeated (items : List α) (times : Nat) : List α :=
  if items.isEmpty then [] else (List.replicate times items).flatten

/-- A sum, or two texts or lists one after the other. -/
def add (escapes : Bool) (left right : Value) : Except ScriptFault Value :=
  match left, right with
  | .text .., .text .. => .ok (left.concat escapes right)
  | left, right =>
    match left.parts?, right.parts? with
    | some lefts, some rights =>
      .ok (.stream (lefts ++ rights) (left.isCounted && right.isCounted))
    | _, _ => sum left right

/-- A product, or a text or list repeated. -/
def multiply (left right : Value) : Except ScriptFault Value :=
  let repeatText (word : String) (safe : Bool) (count : Value) : Except ScriptFault Value := do
    return .text (String.ofList (repeated word.toList (← count.times))) safe
  let repeatItems (items : List Value) (counted : Bool) (count : Value) :
      Except ScriptFault Value := do
    if !counted then throw .invalidOperation
    return .stream (repeated items (← count.times)) true
  match left, right with
  | .text word safe, count | count, .text word safe => repeatText word safe count
  | left, right =>
    match left.parts?, right.parts? with
    | some items, _ => repeatItems items left.isCounted right
    | Option.none, some items => repeatItems items right.isCounted left
    | Option.none, Option.none => product left right

/-- Whether a text holds another, a list an item, or a map a key. -/
def contains (container item : Value) : Except ScriptFault Bool :=
  match container with
  | .undefined => .ok false
  | .text word _ => .ok (Text.cutAt? item.display word.toList).isSome
  | .function _ => .ok false
  | .none | .bool _ | .integer _ | .real _ => .error .invalidOperation
  | container =>
    match container.parts? with
    | some items => .ok (items.any fun other => other.equal item)
    | Option.none => .ok (container.item? item).isSome

/-- The value of an operator whose operands have both been computed. -/
def binary (escapes : Bool) (op : BinaryOp) (left right : Value) : Except ScriptFault Value :=
  match op with
  | .add => add escapes left right
  | .subtract => difference left right
  | .concat => .ok (left.concat escapes right)
  | .multiply => multiply left right
  | .divide => quotient left right
  | .floorDivide => floorQuotient left right
  | .remainder => remainder left right
  | .power => power left right

/-- Whether two values stand to each other as they are asked to. -/
def compare (comparison : Comparison) (left right : Value) : Except ScriptFault Bool :=
  match comparison with
  | .equal => .ok (equal left right)
  | .unequal => .ok (!equal left right)
  | .less => .ok (order left right == .lt)
  | .atMost => .ok (order left right != .gt)
  | .greater => .ok (order left right == .gt)
  | .atLeast => .ok (order left right != .lt)
  | .isIn => contains right left
  | .isNotIn => (contains right left).map (!·)

/-- The value of an operator with one operand. -/
def unary (op : UnaryOp) (operand : Value) : Except ScriptFault Value :=
  match op with
  | .not => .ok (.bool (!operand.isTrue))
  | .negate => negate operand

end CatalogPages.Script.Value
