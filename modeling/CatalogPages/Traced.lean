/-
**Work that is reported.**

A traced value is a result or a fault, together with the events that led to it. Events that came
before a fault are kept.
-/

import CatalogPages.Event
import CatalogPages.Fault

namespace CatalogPages

/-- A result or a fault, and the events on the way to it. -/
structure Traced (α : Type) where
  events : List Event
  result : Except Fault α

namespace Traced

/-- A result that no event led to. -/
def of (result : Except Fault α) : Traced α :=
  ⟨[], result⟩

/-- Reports one event. -/
def report (event : Event) : Traced Unit :=
  ⟨[event], .ok ()⟩

/-- Fails without an event. -/
def fail (fault : Fault) : Traced α :=
  ⟨[], .error fault⟩

/-- Goes on with a result; a fault ends the work. -/
def andThen (first : Traced α) (next : α → Traced β) : Traced β :=
  match first.result with
  | .ok value => ⟨first.events ++ (next value).events, (next value).result⟩
  | .error fault => ⟨first.events, .error fault⟩

instance : Monad Traced where
  pure value := of (.ok value)
  bind := andThen

/-- Work without events is work. -/
instance : Coe (Except Fault α) (Traced α) := ⟨of⟩

@[simp] theorem events_of (result : Except Fault α) : (of result).events = [] := rfl

@[simp] theorem result_of (result : Except Fault α) : (of result).result = result := rfl

@[simp] theorem result_report (event : Event) : (report event).result = .ok () := rfl

@[simp] theorem events_report (event : Event) : (report event).events = [event] := rfl

@[simp] theorem result_fail (fault : Fault) : (fail fault : Traced α).result = .error fault := rfl

@[simp] theorem pure_eq (value : α) : (pure value : Traced α) = of (.ok value) := rfl

@[simp] theorem bind_eq (first : Traced α) (next : α → Traced β) :
    first >>= next = first.andThen next := rfl

/-- The result of a sequence is the sequence of the results. -/
@[simp] theorem result_andThen (first : Traced α) (next : α → Traced β) :
    (first.andThen next).result = first.result.bind fun value => (next value).result := by
  cases h : first.result <;> simp [andThen, h, Except.bind]

@[simp] theorem events_andThen (first : Traced α) (next : α → Traced β) :
    (first.andThen next).events = first.events ++
      match first.result with
      | .ok value => (next value).events
      | .error _ => [] := by
  cases h : first.result <;> simp [andThen, h]

/-- Work that starts with a result is what follows it. -/
theorem of_ok_andThen (value : α) (next : α → Traced β) :
    (of (.ok value)).andThen next = next value := by
  simp [andThen, of]

/-- Work that is followed by nothing is itself. -/
theorem andThen_of_ok (work : Traced α) : (work.andThen fun value => of (.ok value)) = work := by
  obtain ⟨events, result⟩ := work
  cases result <;> simp [andThen, of]

/-- Work in three parts can be put together in either order. -/
theorem andThen_assoc (first : Traced α) (second : α → Traced β) (third : β → Traced γ) :
    (first.andThen second).andThen third =
      first.andThen fun value => (second value).andThen third := by
  cases h : first.result with
  | error => simp [andThen, h]
  | ok value => cases h' : (second value).result <;> simp [andThen, h, h']

instance : LawfulMonad Traced :=
  LawfulMonad.mk' Traced andThen_of_ok of_ok_andThen andThen_assoc

/-- Steps that never fail go on to the end. -/
theorem result_foldlM {f : β → α → Traced β} {g : β → α → β}
    (step : ∀ state item, (f state item).result = .ok (g state item)) (items : List α) :
    ∀ state, (items.foldlM f state).result = .ok (items.foldl g state) := by
  induction items with
  | nil => exact fun _ => rfl
  | cons item items ih =>
    intro state
    rw [List.foldlM_cons, bind_eq, result_andThen, step, List.foldl_cons, ← ih]
    rfl

end Traced

end CatalogPages
