/-
**Filters of a script.**

* `chosen`: the items of a list, or those with some member, that pass a test;
* `applyFilter`: the value of the filter of a name.
-/

import CatalogPages.Script.Filters.Lists
import CatalogPages.Script.Filters.Numbers
import CatalogPages.Script.Tests

namespace CatalogPages.Script

namespace Filter

/-- Whether a value passes a test, or holds where there is none. -/
def passes (test : Option Test) (arguments : List Value) (value : Value) :
    Except ScriptFault Bool :=
  match test with
  | some test => taken (test value) ⟨arguments, none⟩
  | none => .ok value.isTrue

/-- The items that pass, or those that do not. What is tested is the item or what a path leads
to. -/
def chosen (wanted : Bool) (path : Option String) (test : Option Test) (arguments : List Value) :
    List Value → Except ScriptFault (List Value)
  | [] => .ok []
  | item :: rest => do
    let tested ← match path with
      | some path => item.path path
      | none => pure item
    let kept := (← passes test arguments tested) == wanted
    let more ← chosen wanted path test arguments rest
    return if kept then item :: more else more

/-- The test that the next argument names, if there is one. -/
def namedTest : Taking (Option Test) := do
  match ← Taking.optionalText with
  | some name =>
    match test? (String.ofList name.display) with
    | some test => return some test
    | none => throw .unknownTest
  | none => return none

/-- Chooses items by themselves. -/
def choose (wanted : Bool) : Filter := fun _ value => do
  let test ← namedTest
  let arguments ← Taking.rest
  return .list (← chosen wanted none test arguments (← value.items))

/-- Chooses items by what a path leads to. -/
def chooseByMember (wanted : Bool) : Filter := fun _ value => do
  let path := String.ofList (← Taking.nextText).display
  let test ← namedTest
  let arguments ← Taking.rest
  return .list (← chosen wanted (some path) test arguments (← value.items))

/-- What an attribute, a path or a key, leads to in each item. -/
def membersOf (which default : Value) (items : List Value) : Except ScriptFault (List Value) :=
  items.mapM fun item =>
    let found := match which.text? with
      | some path => item.path path
      | none => item.item which
    match found, default with
    | .ok .undefined, default => .ok default
    | .ok found, _ => .ok found
    | .error fault, .undefined => .error fault
    | .error _, default => .ok default

/-- Exchanges each item for one of its members. -/
def mapMembers (which : Value) : Filter := fun _ value => do
  Taking.noMore
  let default := (← Taking.named? "default").getD .undefined
  let members ← membersOf which default (← value.items)
  return .list members

end Filter

/-- The filters that choose, by name. -/
def choosingFilters : List (String × Filter) := [
  ("select", .choose true),
  ("reject", .choose false),
  ("selectattr", .chooseByMember true),
  ("rejectattr", .chooseByMember false)]

/-- The filter of a name, unless it applies other filters. -/
def filter? (name : String) : Option Filter :=
  (((textFilters.lookup name).or (listFilters.lookup name)).or (numberFilters.lookup name)).or
    (choosingFilters.lookup name)

/-- The member that each item is to be exchanged for, if that is asked for. -/
def mappedMember? (named : Option (List (Value × Value))) : Option Value :=
  (Value.lookup (.ofName "attribute") (named.getD [])).bind Taking.given?

/-- The value of the filter of a name. The filter `map` applies the filter that its first argument
names to each item. -/
def applyFilter (escapes : Bool) (name : String) (named : Option (List (Value × Value))) :
    (placed : List Value) → Value → Except ScriptFault Value
  | placed, value =>
    if name = "map" then
      match mappedMember? named, placed with
      | some which, placed =>
        taken (do
          Taking.useNames
          let _ ← Taking.named? "attribute"
          Filter.mapMembers which escapes value) ⟨placed, named⟩
      | none, .text inner _ :: rest =>
        if isFilterName inner then do
          return .list (← (← value.items).mapM fun item => applyFilter escapes inner none rest item)
        else .error .unknownFilter
      | none, _ => .error .invalidOperation
    else
      match filter? name with
      | some filter => taken (filter escapes value) ⟨placed, named⟩
      | none => .error .unknownFilter

end CatalogPages.Script
