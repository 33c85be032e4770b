/-
**The values of names on a page.**

* `Item.member_value`: what a category or a library holds under the names that loops look for;
* `values_categories`, `values_libraries`: what the loops go through;
* `lookup_values`: any other name has the value that the page gives it.
-/

import CatalogPages.Proofs.Catalog.Order
import CatalogPages.Proofs.Page.Pieces
import Mathlib.Data.List.Forall2

namespace CatalogPages

open Script (Value)

/-! ### Lookups in lists -/

theorem lookup_map_value {α β : Type} (f : α → β) (name : String) (pairs : List (String × α)) :
    (pairs.map fun pair => (pair.1, f pair.2)).lookup name = (pairs.lookup name).map f := by
  induction pairs with
  | nil => rfl
  | cons pair pairs ih =>
    rw [List.map_cons, List.lookup_cons, List.lookup_cons, ih]
    cases name == pair.1 <;> rfl

/-- A name that is not among others has no value there. -/
theorem lookup_eq_none {α : Type} {name : String} {pairs : List (String × α)}
    (missing : name ∉ pairs.map Prod.fst) : pairs.lookup name = none := by
  rw [List.lookup_eq_none_iff]
  intro pair member
  have differ : name ≠ pair.1 := by
    rintro rfl
    exact missing (List.mem_map_of_mem member)
  simpa using differ

/-- Where no name is repeated, the first value of a name is the last. -/
theorem lookup_reverse_of_nodup {α : Type} (name : String) {pairs : List (String × α)}
    (distinct : (pairs.map Prod.fst).Nodup) : pairs.reverse.lookup name = pairs.lookup name := by
  induction pairs with
  | nil => rfl
  | cons pair pairs ih =>
    obtain ⟨key, value⟩ := pair
    obtain ⟨missing, distinct⟩ := List.nodup_cons.mp distinct
    rw [List.reverse_cons, List.lookup_append, ih distinct]
    by_cases same : name = key
    · subst same
      rw [lookup_eq_none missing]
      simp
    · simp [List.lookup_cons, beq_false_of_ne same]

/-! ### What loops are at -/

namespace Item

/-- What a script sees of a category or a library. -/
def value : Item → Value
  | inCategory view => view.toValue
  | atLibrary library => library.toValue

/-- The name that a loop gives to what it is at. -/
def variableName : Item → String
  | inCategory _ => "category"
  | atLibrary _ => "library"

/-- The assignments of a loop over such items. -/
def bindings : Item → List (String × String)
  | inCategory _ => Markers.Loop.categories.bindings
  | atLibrary _ => (Markers.Loop.libraries Markers.allLibraries).bindings

/-- **The names of a loop have the values that the marker language gives them.** -/
theorem member_value (item : Item) :
    List.Forall₂ (fun binding entry =>
      binding.1 = entry.1 ∧ item.value.member binding.2 = .ok (.ofName entry.2))
      item.bindings item.names := by
  cases item with
  | inCategory view => exact .cons ⟨rfl, rfl⟩ (.cons ⟨rfl, rfl⟩ (.cons ⟨rfl, rfl⟩ .nil))
  | atLibrary library =>
    exact .cons ⟨rfl, rfl⟩ (.cons ⟨rfl, rfl⟩ (.cons ⟨rfl, rfl⟩ (.cons ⟨rfl, rfl⟩
      (.cons ⟨rfl, rfl⟩ .nil))))

/-- The values of the names of a loop, that of the item itself included. -/
def values (item : Item) : List (String × Value) :=
  (item.variableName, item.value) :: item.names.map fun entry => (entry.1, .ofName entry.2)

theorem values_nodup (item : Item) : (item.values.map Prod.fst).Nodup := by
  cases item with
  | inCategory view =>
    show ["category", "key", "name", "title"].Nodup
    decide
  | atLibrary library =>
    show ["library", "key", "name", "authors", "link", "description"].Nodup
    decide

theorem variableName_ne (item : Item) : ∀ entry ∈ item.names, item.variableName ≠ entry.1 := by
  have missing := (List.nodup_cons.mp item.values_nodup).1
  intro entry member same
  refine missing ?_
  rw [same, List.map_map]
  exact List.mem_map_of_mem member

end Item

theorem libraries_value (view : CategoryView) :
    view.toValue.member "libraries" = .ok (librariesValue view.libraries) := by
  rfl

/-! ### The variables of a page -/

namespace PageContext

variable {context : PageContext}

/-- Variables that are lists of libraries or categories. -/
def listNames : List String :=
  ["unreleased_libs", "categories", "libraries"]

/-- The variables that are there whatever the settings add, as scripts see them. -/
def builtInValues (context : PageContext) : List (String × Value) :=
  context.version.members.map (fun member => (member.1, Value.ofJson member.2)) ++ [
    ("is_develop", .bool context.isDevelop),
    ("unreleased_lib_count", .integer context.unreleasedCount),
    ("unreleased_libs", librariesValue context.unreleased),
    ("categories", .list (context.categories.map CategoryView.toValue)),
    ("libraries", librariesValue context.libraries)]

/-- Globals decide first. -/
theorem lookup_values_eq (context : PageContext) (name : String) :
    context.values.lookup name =
      ((context.globals.reverse.lookup name).map Value.ofJson).or
        (context.builtInValues.reverse.lookup name) := by
  rw [values, Keyed.lookup_ofList, List.reverse_append, List.lookup_append, ← List.map_reverse,
    lookup_map_value]
  rfl

theorem lookup_members_eq (context : PageContext) (name : String) :
    context.members.lookup name =
      (context.globals.reverse.lookup name).or (context.builtIn.reverse.lookup name) := by
  rw [members, Keyed.lookup_ofList, List.reverse_append, List.lookup_append]

theorem lookup_globals_of_apart {name : String} (apart : name ∉ context.globals.map Prod.fst) :
    context.globals.reverse.lookup name = none :=
  lookup_eq_none (by simpa using apart)

theorem values_categories (apart : "categories" ∉ context.globals.map Prod.fst) :
    context.values.lookup "categories" =
      some (.list (context.categories.map CategoryView.toValue)) := by
  rw [lookup_values_eq, lookup_globals_of_apart apart]
  rfl

theorem values_libraries (apart : "libraries" ∉ context.globals.map Prod.fst) :
    context.values.lookup "libraries" = some (librariesValue context.libraries) := by
  rw [lookup_values_eq, lookup_globals_of_apart apart]
  rfl

/-- **Any other variable is a value of the page as it is written down.** -/
theorem lookup_values {name : String} (other : name ∉ listNames) :
    context.values.lookup name = (context.members.lookup name).map Value.ofJson := by
  rw [lookup_values_eq, lookup_members_eq, Option.map_or,
    ← lookup_map_value Value.ofJson name context.builtIn.reverse, List.map_reverse, builtInValues,
    builtIn, List.map_append, List.reverse_append, List.reverse_append, List.lookup_append,
    List.lookup_append]
  congr 2
  simp only [listNames, List.mem_cons, List.not_mem_nil, or_false, not_or] at other
  simp [List.lookup_cons, beq_false_of_ne other.1, beq_false_of_ne other.2.1,
    beq_false_of_ne other.2.2, Value.ofJson]

end PageContext

end CatalogPages
