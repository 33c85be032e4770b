/-
**Event filters.**

A filter is a list of directives. Each is for the events of some components and lets through those
that matter enough; of the directives for an event the most specific one decides, and without one
the event is dropped.

* `EventFilter.admits`: whether an event is let through;
* `Directive.outranks`: which of two directives is the more specific one.
-/

import CatalogPages.Event

namespace CatalogPages

/-- What one part of a filter says. -/
structure Directive where
  /-- How the components start that it is for; without it, it is for all. -/
  component : Option String := none
  /-- The field that the events it is for have; without it, any will do. -/
  field : Option String := none
  /-- The least important level that it lets through; without it, it lets nothing through. -/
  threshold : Option Level
  deriving DecidableEq, Repr

/-- A list of directives. -/
structure EventFilter where
  directives : List Directive
  deriving DecidableEq, Repr

namespace Directive

/-- Whether a directive is for an event. -/
def covers (directive : Directive) (event : Event) : Bool :=
  (match directive.component, event.component with
    | none, _ => true
    | some start, some component => start.toList.isPrefixOf component.toList
    | some _, none => false) &&
  (match directive.field with
    | none => true
    | some field => field == "message" || (event.fields.lookup field).isSome)

/-- Whether a directive lets an event through. -/
def admits (directive : Directive) (event : Event) : Bool :=
  match directive.threshold with
  | some level => decide (event.level.rank ≤ level.rank)
  | none => false

/-- How much of a component's path a directive gives. -/
def reach (directive : Directive) : Nat :=
  match directive.component with
  | some start => start.utf8ByteSize + 1
  | none => 0

/-- Whether a field that directives give decides before another: one that is given before none,
and of two the greater name. -/
def fieldOutranks : Option String → Option String → Bool
  | _, none => true
  | none, some _ => false
  | some field, some other => decide (other ≤ field)

/-- Whether a directive decides before another: it gives more of the component, or as much and a
field that comes before the other's. -/
def outranks (directive other : Directive) : Bool :=
  decide (other.reach < directive.reach) ||
    (decide (other.reach = directive.reach) && fieldOutranks directive.field other.field)

end Directive

namespace EventFilter

/-- The directive that decides on an event. Of directives of one rank the last decides. -/
def directiveFor (filter : EventFilter) (event : Event) : Option Directive :=
  (filter.directives.filter fun directive => directive.covers event).foldl
    (fun best directive =>
      match best with
      | some best => some (if directive.outranks best then directive else best)
      | none => some directive)
    none

/-- Whether an event is let through. -/
def admits (filter : EventFilter) (event : Event) : Bool :=
  match filter.directiveFor event with
  | some directive => directive.admits event
  | none => false

/-- The filter that lets through every event down to a level. -/
def downTo (level : Level) : EventFilter :=
  ⟨[{ threshold := some level }]⟩

/-- A level alone is for all components. -/
@[simp] theorem admits_downTo (level : Level) (event : Event) :
    (downTo level).admits event = decide (event.level.rank ≤ level.rank) := by
  simp [admits, directiveFor, downTo, Directive.covers, Directive.admits]

/-- Without directives nothing is let through. -/
@[simp] theorem admits_nil (event : Event) : (EventFilter.mk []).admits event = false := rfl

end EventFilter

end CatalogPages
