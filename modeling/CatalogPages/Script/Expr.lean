/-
**Expressions and statements of a script.**
-/

import CatalogPages.Script.Value

namespace CatalogPages.Script

/-- Operators that compute with two operands. -/
inductive BinaryOp where
  | add
  | subtract
  | concat
  | multiply
  | divide
  | floorDivide
  | remainder
  | power
  deriving DecidableEq, Repr

/-- How two values are compared. -/
inductive Comparison where
  | equal
  | unequal
  | less
  | atMost
  | greater
  | atLeast
  | isIn
  | isNotIn
  deriving DecidableEq, Repr

/-- Operators with one operand. -/
inductive UnaryOp where
  | not
  | negate
  deriving DecidableEq, Repr

/-- How an expression gives arguments to a call. -/
inductive ArgumentKind where
  /-- It gives one by its place. -/
  | placed
  /-- It gives one by a name. -/
  | named (name : String)
  /-- It gives each of its items by its place. -/
  | items
  /-- It gives each of its entries by its key. -/
  | entries
  deriving DecidableEq, Repr

/-- An expression. -/
inductive Expr where
  | constant (value : Value)
  | variable (name : String)
  | list (items : List Expr)
  | map (entries : List (Expr × Expr))
  | attribute (of : Expr) (name : String)
  | item (of index : Expr)
  | slice (of start stop step : Expr)
  | unary (op : UnaryOp) (operand : Expr)
  | binary (op : BinaryOp) (left right : Expr)
  | both (left right : Expr)
  | either (left right : Expr)
  /-- Each value is compared with the next one. -/
  | compare (first : Expr) (rest : List (Comparison × Expr))
  | conditional (test yes no : Expr)
  | filter (name : String) (operand : Expr) (arguments : List (ArgumentKind × Expr))
  | test (name : String) (operand : Expr) (arguments : List (ArgumentKind × Expr))
  | call (callee : Expr) (arguments : List (ArgumentKind × Expr))
  deriving Inhabited

/-- Arguments of a call, a filter or a test. -/
abbrev ArgumentList := List (ArgumentKind × Expr)

/-- What a loop or an assignment gives a value to. -/
inductive Target where
  | name (name : String)
  | several (targets : List Target)
  | member (of : Expr) (name : String)
  deriving Inhabited

/-- The first statement of a loop. -/
structure LoopHead where
  target : Target
  source : Expr
  condition : Option Expr
  /-- Whether the loop can be run inside itself. -/
  recursive : Bool
  deriving Inhabited

/-- The first statement of a routine. -/
structure RoutineSignature where
  name : String
  parameters : List String
  /-- The values of the last parameters where none are given. -/
  defaults : List Expr
  deriving Inhabited

/-- The names that an import takes, each with the name it gets. -/
abbrev ImportedNames := List (String × String)

/-- A part of a template that has been read. -/
inductive Node where
  | text (text : List Char)
  | output (value : Expr)
  | loop (head : LoopHead) (body otherwise : List Node)
  | choose (branches : List (Expr × List Node)) (otherwise : List Node)
  | assign (target : Target) (value : Expr)
  | capture (target : Target) (filters : List (String × ArgumentList)) (body : List Node)
  | scope (assignments : List (Target × Expr)) (body : List Node)
  | autoescape (mode : Expr) (body : List Node)
  | filtered (filters : List (String × ArgumentList)) (body : List Node)
  | block (name : String)
  | routine (signature : RoutineSignature) (body : List Node)
  /-- A call with a routine that it can call back. -/
  | callWith (callee : Expr) (arguments : ArgumentList) (signature : RoutineSignature)
    (body : List Node)
  | evaluate (call : Expr)
  | includes (name : Expr) (lenient : Bool)
  | imports (template : Expr) (name : String)
  | importsNames (template : Expr) (names : ImportedNames)
  | extending (name : Expr)
  deriving Inhabited

end CatalogPages.Script
