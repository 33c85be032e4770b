/-
**Arguments.**

What a filter, a test or a function is given besides the value that it is applied to: values by
their places, and values by name. What takes no names is given them all as one map, after the
others.

* `Taking`: takes arguments one after another;
* `taken`: the result, if nothing is left over.
-/

import CatalogPages.Script.Contents
import CatalogPages.Script.Written

namespace CatalogPages.Script

/-- The arguments of a call. -/
structure Arguments where
  placed : List Value
  named : Option (List (Value × Value)) := none

/-- The arguments as values, where names mean nothing. -/
def Arguments.values (arguments : Arguments) : List Value :=
  arguments.placed ++ (arguments.named.map .map).toList

/-- Arguments that have not been taken yet. -/
structure Untaken where
  placed : List Value
  /-- Values by name that count as one more value. -/
  bundle : Option (List (Value × Value))
  /-- Values that can be asked for by name. -/
  named : List (Value × Value)

/-- Takes arguments, or fails. -/
abbrev Taking := StateT Untaken (Except ScriptFault)

namespace Taking

/-- From here on values can be asked for by name. -/
def useNames : Taking Unit :=
  modify fun left => { left with bundle := none, named := left.bundle.getD [] }

/-- The next value, if there is one. -/
def next? : Taking (Option Value) := do
  match ← get with
  | ⟨value :: placed, bundle, named⟩ => set (⟨placed, bundle, named⟩ : Untaken); return some value
  | ⟨[], some entries, named⟩ => set (⟨[], none, named⟩ : Untaken); return some (.map entries)
  | ⟨[], none, _⟩ => return none

/-- The next value, which must be there. -/
def next : Taking Value := do
  match ← next? with
  | some value => return value
  | none => throw .missingArgument

/-- A value that stands for one that is left out. -/
def given? : Value → Option Value
  | .undefined | .none => none
  | value => some value

/-- The next value; nothing stands for one that is left out. -/
def optional : Taking (Option Value) := do
  return (← next?).bind given?

/-- All values that are left. -/
def rest : Taking (List Value) := do
  let left ← get
  set (⟨[], none, left.named⟩ : Untaken)
  return left.placed ++ (left.bundle.map .map).toList

/-- The value of a name. -/
def named? (name : String) : Taking (Option Value) := do
  let left ← get
  match Value.lookup (.ofName name) left.named with
  | some value =>
    set { left with named := left.named.filter fun entry => entry.1.text? != some name }
    return some value
  | none => return none

/-- No value is left. -/
def noMore : Taking Unit := do
  let left ← get
  if !left.placed.isEmpty || left.bundle.isSome then throw .tooManyArguments

/-- No name is left. -/
def noMoreNames : Taking Unit := do
  if !(← get).named.isEmpty then throw .tooManyArguments

/-- A truth value. -/
def asFlag : Value → Taking Bool
  | .bool value => return value
  | _ => throw .invalidOperation

/-- A text. -/
def asName : Value → Taking String
  | .text value _ => return value
  | _ => throw .invalidOperation

/-- A whole number. -/
def asWhole (value : Value) : Taking Int := do
  match value.whole? with
  | some n => return n
  | none => throw .invalidOperation

/-- A count. -/
def asCount (value : Value) : Taking Nat := do
  let n ← asWhole value
  if n < 0 then throw .invalidOperation else return n.toNat

/-- Values by name are no text. -/
def noBundle : Taking Unit := do
  let left ← get
  if left.placed.isEmpty && left.bundle.isSome then throw .invalidOperation

/-- The next value as a text, which must be there. -/
def nextText : Taking Value := do
  noBundle
  next

/-- The next value as a text, if there is one. -/
def optionalText : Taking (Option Value) := do
  noBundle
  optional

/-- The truth value of a name, or false. -/
def flag (name : String) : Taking Bool := do
  match (← named? name).bind given? with
  | some value => asFlag value
  | none => return false

/-- The text of a name, if it is given. -/
def nameOf? (name : String) : Taking (Option String) := do
  ((← named? name).bind given?).mapM asName

end Taking

/-- What is made of arguments, of which none may be left over. -/
def taken (taking : Taking α) (arguments : Arguments) : Except ScriptFault α := do
  let all : Taking α := do
    let result ← taking
    Taking.noMore
    Taking.noMoreNames
    return result
  let (result, _) ← all.run ⟨arguments.placed, arguments.named, []⟩
  return result

end CatalogPages.Script
