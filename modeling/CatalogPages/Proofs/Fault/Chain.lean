/-
**Faults within faults.**

A fault that is told within another becomes the innermost cause of the other. So the causes of both
are the causes of the outer fault and then those of the inner one, and it makes no difference in
which order three faults are put together.

* `Fault.cause?`, `Fault.causes`: the fault that a fault wraps, and all that it wraps with itself;
* `Fault.inward`: induction on these, from a fault to the fault that it wraps;
* `cause?_within`: the way inward, until there is a fault that wraps nothing;
* `causes_within`: the causes of a fault within another;
* `within_appends`: this and what follows for three faults and for results.
-/

import CatalogPages.Fault

namespace CatalogPages

namespace Fault

/-! ### Causes -/

/-- The fault that a fault wraps, if it wraps one. -/
def cause? (fault : Fault) : Option Fault :=
  match fault.inner with
  | [] => none
  | first :: rest => some ⟨first, rest⟩

/-- The faults along a chain of details, each of them from one detail inward. -/
def causesFrom (outermost : Detail) : List Detail → List Fault
  | [] => [⟨outermost, []⟩]
  | first :: rest => ⟨outermost, first :: rest⟩ :: causesFrom first rest

/-- A fault and every fault that it wraps, outermost first. -/
def causes (fault : Fault) : List Fault :=
  causesFrom fault.outermost fault.inner

/-- A fault comes first of its causes, and then those of the fault that it wraps. -/
theorem causes_eq (fault : Fault) :
    fault.causes = fault ::
      match fault.cause? with
      | some cause => cause.causes
      | none => [] := by
  obtain ⟨outermost, inner⟩ := fault
  cases inner <;> rfl

/-- **Induction inward**: what holds of faults that wrap nothing, and of a fault that wraps another
when it holds of the other, holds of all. -/
@[elab_as_elim]
theorem inward {motive : Fault → Prop} (alone : ∀ detail, motive ⟨detail, []⟩)
    (wrapping : ∀ detail cause, motive cause → motive ⟨detail, cause.details⟩) (fault : Fault) :
    motive fault := by
  obtain ⟨detail, inner⟩ := fault
  induction inner generalizing detail with
  | nil => exact alone detail
  | cons first rest ih => exact wrapping detail ⟨first, rest⟩ (ih first)

/-- The details of a fault are those of its causes. -/
theorem map_outermost_causes (fault : Fault) : fault.causes.map outermost = fault.details := by
  induction fault using inward with
  | alone detail => rfl
  | wrapping detail cause ih => exact congrArg (detail :: ·) ih

/-! ### Faults within faults -/

/-- **A fault goes inward** through those that wrap others, and is wrapped by the first that wraps
nothing. -/
theorem cause?_within (cause outer : Fault) :
    (cause.within outer).cause? = some (
      match outer.cause? with
      | some inner => cause.within inner
      | none => cause) := by
  obtain ⟨outermost, inner⟩ := outer
  cases inner <;> rfl

/-- **The causes of the outer fault come first.** They have the details that they had and wrap the
inner fault as well; those of the inner fault follow as they are. -/
theorem causes_within (cause outer : Fault) :
    (cause.within outer).causes = outer.causes.map cause.within ++ cause.causes := by
  induction outer using inward with
  | alone detail =>
    rw [causes_eq (cause.within _), cause?_within]
    rfl
  | wrapping detail inner ih =>
    rw [causes_eq (cause.within _), cause?_within]
    exact congrArg (cause.within ⟨detail, inner.details⟩ :: ·) ih

/-- Of three faults any two that are next to each other can be put together first. -/
theorem within_assoc (cause middle outer : Fault) :
    (cause.within middle).within outer = cause.within (middle.within outer) := by
  unfold within details
  rw [List.append_assoc, List.cons_append]

end Fault

/-- **To tell a fault within another is to append its causes**, whatever each of them wraps. A fault
is the first of its causes, and those of the fault that it wraps follow. Their details stay as they
are and in order; the message is that of the outer fault; of three faults any two can be put
together first; and with a result a success is left alone, and what is wrong with a failure is told
as the cause of the outer fault. -/
theorem within_appends {ε α : Type} (into : ε → Fault) (result : Except ε α)
    (cause middle outer : Fault) :
    (∀ fault : Fault, fault.causes = fault ::
        match fault.cause? with
        | some inner => inner.causes
        | none => []) ∧
      (cause.within outer).causes = outer.causes.map cause.within ++ cause.causes ∧
      (cause.within outer).causes.map Fault.outermost =
        outer.causes.map Fault.outermost ++ cause.causes.map Fault.outermost ∧
      (cause.within outer).message = outer.message ∧
      ((cause.within middle).within outer).causes =
        (cause.within (middle.within outer)).causes ∧
      ((cause.within middle).within outer).display =
        (cause.within (middle.within outer)).display ∧
      within outer (result.mapError into) =
        match result with
        | .ok value => .ok value
        | .error fault => .error ((into fault).within outer) := by
  have sameFault := Fault.within_assoc cause middle outer
  refine ⟨Fault.causes_eq, Fault.causes_within cause outer, ?_, Fault.message_within cause outer,
    congrArg Fault.causes sameFault, congrArg Fault.display sameFault, ?_⟩
  · rw [Fault.map_outermost_causes, Fault.map_outermost_causes, Fault.map_outermost_causes,
      Fault.details_within]
  · cases result with
    | ok value => rfl
    | error fault => rfl

example :
    (((Fault.of "inner").within (.of "middle")).within (.of "outer")).causes.map Fault.message =
      ["outer", "middle", "inner"] :=
  rfl

end CatalogPages
