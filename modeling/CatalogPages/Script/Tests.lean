/-
**Tests of a script.**

What can be asked of a value with `is`.
-/

import CatalogPages.Script.Filters.Lists
import CatalogPages.Script.Filters.Numbers
import CatalogPages.Script.Operators
import CatalogPages.Text.Letter

namespace CatalogPages.Script

/-- Tells something of a value, given arguments. -/
abbrev Test := Value → Taking Bool

namespace Test

/-- A test without arguments. -/
def of (holds : Value → Bool) : Test := fun value =>
  return holds value

/-- A test of a value's kind. -/
def ofKind (kind : Value.Kind) : Test :=
  of fun value => value.kind == kind

/-- A test that compares a value with its argument. -/
def ofComparison (comparison : Comparison) : Test := fun value => do
  Value.compare comparison value (← Taking.next)

/-- A test of a whole number. -/
def ofWhole (holds : Int → Bool) : Test :=
  of fun value => value.integer?.any holds

def isInteger : Value → Bool
  | .integer _ => true
  | _ => false

def isReal : Value → Bool
  | .real _ => true
  | _ => false

/-- Whether a number is a multiple of another. -/
def isMultiple (value divisor : Value) : Bool :=
  match value.number?, divisor.number? with
  | some (.integer n), some (.integer m) => m != 0 && n % m == 0
  | some left, some right => Number.remainder left.toReal right.toReal == 0
  | _, _ => false

def divisibleBy : Test := fun value => do
  return isMultiple value (← Taking.next)

/-- A test of the text of a value and another text. -/
def ofTexts (holds : (part text : List Char) → Bool) : Test := fun value => do
  return holds (← Taking.nextText).display value.display

/-- A test of the characters of a text. -/
def ofCharacters (holds : Char → Bool) : Test :=
  of fun value => value.text?.any fun text => text.toList.all holds

def sameAs : Test := fun value => do
  let other ← Taking.next
  return value.kind == other.kind && isInteger value == isInteger other && value.equal other

end Test

/-- The tests that hang on no other tests and filters, by name. -/
def plainTests : List (String × Test) := [
  ("undefined", .ofKind .undefined),
  ("defined", .of fun value => value.kind != .undefined),
  ("none", .ofKind .none),
  ("safe", .of Value.isSafe),
  ("escaped", .of Value.isSafe),
  ("boolean", .ofKind .bool),
  ("odd", .ofWhole fun n => n % 2 != 0),
  ("even", .ofWhole fun n => n % 2 == 0),
  ("divisibleby", .divisibleBy),
  ("number", .ofKind .number),
  ("integer", .of Test.isInteger),
  ("int", .of Test.isInteger),
  ("float", .of Test.isReal),
  ("string", .ofKind .text),
  ("sequence", .ofKind .sequence),
  ("iterable", .of fun value => value.items?.isSome),
  ("mapping", .ofKind .map),
  ("startingwith", .ofTexts List.isPrefixOf),
  ("endingwith", .ofTexts List.isSuffixOf),
  ("lower", .ofCharacters Text.isSmall),
  ("upper", .ofCharacters Text.isCapital),
  ("sameas", .sameAs),
  ("eq", .ofComparison .equal),
  ("equalto", .ofComparison .equal),
  ("==", .ofComparison .equal),
  ("ne", .ofComparison .unequal),
  ("!=", .ofComparison .unequal),
  ("lt", .ofComparison .less),
  ("lessthan", .ofComparison .less),
  ("<", .ofComparison .less),
  ("le", .ofComparison .atMost),
  ("<=", .ofComparison .atMost),
  ("gt", .ofComparison .greater),
  ("greaterthan", .ofComparison .greater),
  (">", .ofComparison .greater),
  ("ge", .ofComparison .atLeast),
  (">=", .ofComparison .atLeast),
  ("in", .ofComparison .isIn),
  ("true", .of fun value => value matches .bool true),
  ("false", .of fun value => value matches .bool false)]

/-- Filters that apply a test or a filter to each item. -/
def choosingFilterNames : List String :=
  ["select", "reject", "selectattr", "rejectattr", "map"]

/-- Whether there is a filter of a name. -/
def isFilterName (name : String) : Bool :=
  choosingFilterNames.contains name || (textFilters.lookup name).isSome ||
    (numberFilters.lookup name).isSome || (listFilters.lookup name).isSome

/-- Whether there is a test of a name. -/
def isTestName (name : String) : Bool :=
  name == "filter" || name == "test" || (plainTests.lookup name).isSome

/-- A test of the name of something. -/
def Test.ofName (holds : String → Bool) : Test := fun value =>
  return holds (← Taking.asName value)

/-- The test of a name. -/
def test? (name : String) : Option Test :=
  if name = "filter" then some (.ofName isFilterName)
  else if name = "test" then some (.ofName isTestName)
  else plainTests.lookup name

/-- What the test of a name tells of a value. -/
def applyTest (name : String) (value : Value) (arguments : Arguments) : Except ScriptFault Bool :=
  match test? name with
  | some test => taken (test value) arguments
  | none => .error .unknownTest

end CatalogPages.Script
