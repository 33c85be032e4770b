/-
**Written filters.**

A filter is written as directives `component[span{field}]=level` with commas between them.

* `Directive.parse?`: the directive that a text without commas gives;
* `EventFilter.parse?`: the filter that a text gives.
-/

import CatalogPages.Decimal.Reading
import CatalogPages.EventFilter
import CatalogPages.EventFilter.Pattern
import CatalogPages.Text.Blank
import CatalogPages.Text.Letter

namespace CatalogPages

/-- The levels by name, with the one that drops everything. -/
def levelNames : List (String × Option Level) := [
  ("off", none), ("error", some .error), ("warn", some .warn), ("info", some .info),
  ("debug", some .debug), ("trace", some .trace)]

/-- A level by its name, in any case, or its number. -/
def level? (text : List Char) : Option (Option Level) :=
  match levelNames.lookup (String.ofList (text.map Char.toLower)) with
  | some level => some level
  | none => do
    guard (text.head? ≠ some '-')
    let number ← Decimal.readInteger? text
    levelNames[number.toNat]?.map Prod.snd

/-- What the text after an equals sign lets through: a level, or everything if there is none. -/
def threshold? (text : List Char) : Option (Option Level) :=
  if text.isEmpty then some (some .trace) else level? text

/-- Whether a component can start with a character. -/
def startsComponent (c : Char) : Bool :=
  c.isAlphanum || c == '-' || c == ':' || c == '_' || Text.isLetterOrNumber c

/-- Whether a text can be compared with the value of a field. -/
def isFieldValue (text : List Char) : Bool :=
  (Decimal.readFloat? text).isSome || Pattern.isWellFormed text

namespace Directive

/-- A directive of one component or level. -/
def ofName (name : List Char) : Directive :=
  match level? name with
  | some threshold => { threshold }
  | none => { component := some (String.ofList name), threshold := some .trace }

/-- What the end of a directive lets through, after its component: everything, if there is no
equals sign. The text is cut at places that are counted in what is shown of it. -/
def ending? (text shown : List Char) (place : Nat) : Option (Option Level) :=
  match shown.drop place with
  | [] => some (some .trace)
  | '=' :: _ => threshold? (text.drop (place + 1))
  | _ => none

/-- What a field asks for: its name alone, or a value of it too. -/
def field? (text : List Char) : Option (String × Bool) := do
  guard !text.isEmpty
  match text.splitOnP (· == '=') with
  | name :: value :: _ =>
    guard (isFieldValue value)
    return (String.ofList name, true)
  | _ => return (String.ofList text, false)

/-- A directive with a bracket, whose inside starts at a place. One for a span or for a value of a
field is for no event, because no event of a run is inside a span. -/
def ofBracket (component : Option String) (text shown : List Char) (place : Nat) :
    Option (List Directive) := do
  let piece (start length : Nat) := (text.drop start).take length
  let span := (shown.drop place).takeWhile fun c => c ≠ ']' && c ≠ '\x7b'
  let place := place + span.length
  match shown.drop place with
  | ']' :: _ =>
    let _ ← ending? text shown (place + 1)
    return []
  | _ :: inner =>
    let length := (inner.takeWhile (· ≠ '\x7d')).length
    let (field, hasValue) ← field? (piece (place + 1) length)
    guard (['\x7d', ']'].isPrefixOf (inner.drop length))
    let threshold ← ending? text shown (place + length + 3)
    if span.isEmpty && !hasValue then return [{ component, field := some field, threshold }]
    else return []
  | [] => none

/-- The directives that a text without commas gives: one, or none for a span. White space at its
ends is not shown, but what a directive names is cut from the whole text. -/
def parse? (text : List Char) : Option (List Directive) := do
  let shown := Text.trim text
  guard (shown.head?.any fun c => c = '[' || startsComponent c)
  let place := (shown.takeWhile fun c => c ≠ '=' && c ≠ '[').length
  let name := text.take place
  match shown.drop place with
  | [] => return [ofName text]
  | '[' :: _ =>
    let component := if place = 0 then none else some (String.ofList name)
    ofBracket component text shown (place + 1)
  | _ =>
    let threshold ← ending? text shown place
    return [{ component := some (String.ofList name), threshold }]

end Directive

namespace EventFilter

/-- The filter that a text gives, if it is well-formed. -/
def parse? (text : List Char) : Option EventFilter := do
  let parts := (text.splitOnP (· == ',')).filter fun part => !part.isEmpty
  return ⟨(← parts.mapM Directive.parse?).flatten⟩

end EventFilter

end CatalogPages
