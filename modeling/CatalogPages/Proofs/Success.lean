/-
**Work that succeeds, and work that fails.**

Work in several parts succeeds exactly when each part does, so that what it has come to can be taken
apart. It fails where its first part fails that does.

* `bind_ok_iff`, `bind_error_iff`: two parts, the second of which goes on with the result of the
  first;
* `within_ok_iff`, `within_error_iff`: faults that are told in other words make no difference;
* `exists_left_of_forall₂`: what one of two related lists has is related to something in the other;
* `mapM_ok_iff_forall₂`, `mapM_eq_some_iff_forall₂`, `exists_first_of_mapM_error`: one part for each
  item of a list;
* `exists_first_of_foldlM_error`: one part for each item, each of which goes on from the last;
* `Leads`, `foldlM_of_leads`: parts that lead from state to state.
-/

import CatalogPages.Fault
import Mathlib.Data.List.Forall2

namespace CatalogPages

variable {ε α β : Type}

/-- Work in two parts succeeds when both do. -/
theorem bind_ok_iff {first : Except ε α} {next : α → Except ε β} {result : β} :
    first.bind next = .ok result ↔ ∃ value, first = .ok value ∧ next value = .ok result := by
  cases first with
  | error fault =>
    constructor
    · intro succeeds
      cases succeeds
    · rintro ⟨value, succeeds, -⟩
      cases succeeds
  | ok value =>
    constructor
    · intro succeeds
      exact ⟨value, rfl, succeeds⟩
    · rintro ⟨value, same, succeeds⟩
      cases same
      exact succeeds

/-- Work in two parts fails with its first, or with its second when the first succeeds. -/
theorem bind_error_iff {first : Except ε α} {next : α → Except ε β} {fault : ε} :
    first.bind next = .error fault ↔
      first = .error fault ∨ ∃ value, first = .ok value ∧ next value = .error fault := by
  cases first with
  | error cause => simp [Except.bind]
  | ok value => simp [Except.bind]

/-- Work that is followed by a conversion succeeds when it does. -/
theorem map_ok_iff {f : α → β} {work : Except ε α} {result : β} :
    work.map f = .ok result ↔ ∃ value, work = .ok value ∧ result = f value := by
  cases work with
  | error fault => simp [Except.map]
  | ok value => simp [Except.map, eq_comm]

/-- Work succeeds whatever its faults are called. -/
theorem mapError_ok_iff {δ : Type} {rename : ε → δ} {work : Except ε α} {result : α} :
    work.mapError rename = .ok result ↔ work = .ok result := by
  cases work with
  | error fault =>
    constructor
    · intro succeeds
      cases succeeds
    · intro succeeds
      cases succeeds
  | ok value =>
    constructor
    · intro succeeds
      cases succeeds
      rfl
    · intro succeeds
      cases succeeds
      rfl

theorem within_ok_iff {outer : Fault} {work : Except Fault α} {result : α} :
    within outer work = .ok result ↔ work = .ok result :=
  mapError_ok_iff

/-- The fault that is told is the cause of the one that it is told within. -/
theorem within_error_iff {outer fault : Fault} {work : Except Fault α} :
    within outer work = .error fault ↔
      ∃ cause, work = .error cause ∧ fault = cause.within outer := by
  cases work with
  | error cause => simp [within, Except.mapError, eq_comm]
  | ok value => simp [within, Except.mapError]

/-- What stands on the right has a partner on the left. -/
theorem exists_left_of_forall₂ {relation : α → β → Prop} {items : List α}
    {others : List β} (related : List.Forall₂ relation items others) {other : β}
    (member : other ∈ others) : ∃ item ∈ items, relation item other := by
  induction related with
  | nil => cases member
  | cons here _ ih =>
    rcases List.mem_cons.mp member with rfl | later
    · exact ⟨_, List.mem_cons_self, here⟩
    · obtain ⟨item, listed, holds⟩ := ih later
      exact ⟨item, List.mem_cons_of_mem _ listed, holds⟩

/-- A traversal succeeds with the results of its steps. -/
theorem mapM_ok_iff_forall₂ (f : α → Except ε β) {items : List α} :
    ∀ {results : List β}, items.mapM f = .ok results ↔
      List.Forall₂ (fun item result => f item = .ok result) items results := by
  induction items with
  | nil =>
    intro results
    rw [List.forall₂_nil_left_iff, List.mapM_nil]
    exact ⟨fun same => (Except.ok.inj same).symm, fun same => congrArg Except.ok same.symm⟩
  | cons item items ih =>
    intro results
    rw [List.mapM_cons, List.forall₂_cons_left_iff]
    constructor
    · intro succeeds
      obtain ⟨result, first, succeeds⟩ := bind_ok_iff.mp succeeds
      obtain ⟨others, later, succeeds⟩ := bind_ok_iff.mp succeeds
      cases succeeds
      exact ⟨result, others, first, ih.mp later, rfl⟩
    · rintro ⟨result, others, first, later, rfl⟩
      exact bind_ok_iff.mpr ⟨result, first, bind_ok_iff.mpr ⟨others, ih.mpr later, rfl⟩⟩

/-- A traversal that may find nothing succeeds with what its steps find. -/
theorem mapM_eq_some_iff_forall₂ (f : α → Option β) {items : List α} :
    ∀ {results : List β}, items.mapM f = some results ↔
      List.Forall₂ (fun item result => f item = some result) items results := by
  induction items with
  | nil =>
    intro results
    rw [List.forall₂_nil_left_iff, List.mapM_nil]
    exact ⟨fun same => (Option.some.inj same).symm, fun same => congrArg some same.symm⟩
  | cons item items ih =>
    intro results
    rw [List.mapM_cons, List.forall₂_cons_left_iff]
    constructor
    · intro succeeds
      obtain ⟨result, first, succeeds⟩ := Option.bind_eq_some_iff.mp succeeds
      obtain ⟨others, later, succeeds⟩ := Option.bind_eq_some_iff.mp succeeds
      cases succeeds
      exact ⟨result, others, first, ih.mp later, rfl⟩
    · rintro ⟨result, others, first, later, rfl⟩
      exact Option.bind_eq_some_iff.mpr
        ⟨result, first, Option.bind_eq_some_iff.mpr ⟨others, ih.mpr later, rfl⟩⟩

/-- A traversal fails with the first of its steps that fails. -/
theorem exists_first_of_mapM_error {f : α → Except ε β} {items : List α} {fault : ε}
    (failed : items.mapM f = .error fault) :
    ∃ before item after, items = before ++ item :: after ∧
      (∀ other ∈ before, ∃ result, f other = .ok result) ∧ f item = .error fault := by
  induction items with
  | nil => cases failed
  | cons item items ih =>
    rw [List.mapM_cons] at failed
    rcases bind_error_iff.mp failed with here | ⟨result, here, failed⟩
    · exact ⟨[], item, items, rfl, fun _ member => (nomatch member), here⟩
    · rcases bind_error_iff.mp failed with later | ⟨_, -, failed⟩
      · obtain ⟨before, other, after, rfl, earlier, fails⟩ := ih later
        refine ⟨item :: before, other, after, rfl, fun earliest member => ?_, fails⟩
        rcases List.mem_cons.mp member with rfl | member
        · exact ⟨result, here⟩
        · exact earlier earliest member
      · cases failed

/-- A fold succeeds with its first step and then with the others. -/
theorem foldlM_cons_ok_iff {σ : Type} {f : σ → α → Except ε σ} {item : α} {items : List α}
    {state last : σ} : (item :: items).foldlM f state = .ok last ↔
      ∃ next, f state item = .ok next ∧ items.foldlM f next = .ok last := by
  rw [List.foldlM_cons]
  exact bind_ok_iff

/-- A fold over two lists succeeds with the first and then with the second. -/
theorem foldlM_append_ok_iff {σ : Type} {f : σ → α → Except ε σ} {items more : List α}
    {state last : σ} : (items ++ more).foldlM f state = .ok last ↔
      ∃ next, items.foldlM f state = .ok next ∧ more.foldlM f next = .ok last := by
  rw [List.foldlM_append]
  exact bind_ok_iff

/-- A fold fails with the first of its steps that fails. -/
theorem exists_first_of_foldlM_error {σ : Type} {f : σ → α → Except ε σ} {items : List α}
    {fault : ε} : ∀ {state : σ}, items.foldlM f state = .error fault →
      ∃ before item after middle, items = before ++ item :: after ∧
        before.foldlM f state = .ok middle ∧ f middle item = .error fault := by
  induction items with
  | nil =>
    intro state failed
    cases failed
  | cons item items ih =>
    intro state failed
    rw [List.foldlM_cons] at failed
    rcases bind_error_iff.mp failed with here | ⟨next, here, failed⟩
    · exact ⟨[], item, items, state, rfl, rfl, here⟩
    · obtain ⟨before, other, after, middle, rfl, runs, fails⟩ := ih failed
      refine ⟨item :: before, other, after, middle, rfl, ?_, fails⟩
      rw [List.foldlM_cons]
      exact bind_ok_iff.mpr ⟨next, here, runs⟩

/-- Items that lead from one state to another, each by a step. -/
inductive Leads {ι σ : Type} (step : ι → σ → σ → Prop) : List ι → σ → σ → Prop
  | nil (state : σ) : Leads step [] state state
  | cons {item : ι} {others : List ι} {state next last : σ} (here : step item state next)
      (later : Leads step others next last) : Leads step (item :: others) state last

section Leads

variable {ι σ : Type} {step : ι → σ → σ → Prop}

theorem Leads.mono {other : ι → σ → σ → Prop}
    (implies : ∀ item state next, step item state next → other item state next) {items : List ι}
    {state last : σ} (leads : Leads step items state last) : Leads other items state last := by
  induction leads with
  | nil state => exact .nil state
  | cons here _ ih => exact .cons (implies _ _ _ here) ih

/-- States to which each item leads are those that a fold runs through. -/
theorem foldlM_of_leads {f : σ → ι → Except ε σ}
    (goes : ∀ item state next, step item state next → f state item = .ok next) {items : List ι}
    {state last : σ} (leads : Leads step items state last) :
    items.foldlM f state = .ok last := by
  induction leads with
  | nil state => rfl
  | cons here _ ih =>
    rw [List.foldlM_cons, goes _ _ _ here]
    exact ih

end Leads

end CatalogPages
