/-
**Catalogs.**

A catalog keeps one value for each key, in key order.

* `Catalog.insert`: the value inserted last under a key is kept;
* `Catalog.alphabetic`: the libraries by their names in lower case; libraries of one name stay in
  key order.
-/

import CatalogPages.Keyed
import CatalogPages.Library
import CatalogPages.Text.Case

namespace CatalogPages

/-- Values by key, in key order. -/
structure Catalog (α : Type) where
  entries : List (String × α)
  ascending : Keyed.Ascending entries

namespace Catalog

variable {α β : Type}

/-- The catalog without entries. -/
def empty : Catalog α := ⟨[], Keyed.ascending_nil⟩

instance : Inhabited (Catalog α) := ⟨empty⟩

/-- The value of a key. -/
def get? (catalog : Catalog α) (key : String) : Option α :=
  catalog.entries.lookup key

/-- Whether there is a value of the key. -/
def contains (catalog : Catalog α) (key : String) : Bool :=
  (catalog.get? key).isSome

/-- Sets the value of a key. -/
def insert (catalog : Catalog α) (key : String) (value : α) : Catalog α :=
  ⟨Keyed.put key value catalog.entries, catalog.ascending.put key value⟩

/-- Sets the value of a key, and gives back the value that was there. -/
def exchange (catalog : Catalog α) (key : String) (value : α) : Option α × Catalog α :=
  (catalog.get? key, catalog.insert key value)

/-- Changes the value of a key, if there is one. -/
def modify (catalog : Catalog α) (key : String) (f : α → α) : Catalog α :=
  ⟨Keyed.modify key f catalog.entries, catalog.ascending.modify key f⟩

/-- Changes every value. -/
def map (f : α → β) (catalog : Catalog α) : Catalog β :=
  ⟨Keyed.mapValues f catalog.entries, catalog.ascending.mapValues f⟩

/-- The catalog of some keys and values; the last value of a key is kept. -/
def ofList (pairs : List (String × α)) : Catalog α :=
  pairs.foldl (fun catalog (key, value) => catalog.insert key value) empty

def keys (catalog : Catalog α) : List String :=
  catalog.entries.map Prod.fst

def values (catalog : Catalog α) : List α :=
  catalog.entries.map Prod.snd

def size (catalog : Catalog α) : Nat :=
  catalog.entries.length

def isEmpty (catalog : Catalog α) : Bool :=
  catalog.entries.isEmpty

/-- What libraries are sorted by: the name in lower case. -/
def sortKey (library : Library) : String :=
  String.ofList (Text.lowercase library.name.toList)

/-- The libraries by name, whatever its case. -/
def alphabetic (catalog : Catalog Library) : List Library :=
  (catalog.values.map fun library => (sortKey library, library)).mergeSort
    (fun first second => decide (first.1 ≤ second.1)) |>.map Prod.snd

@[simp] theorem get?_empty (key : String) : (empty : Catalog α).get? key = none := rfl

/-- What is found after an insertion. -/
@[simp] theorem get?_insert (catalog : Catalog α) (key other : String) (value : α) :
    (catalog.insert key value).get? other =
      if other = key then some value else catalog.get? other :=
  Keyed.lookup_put ..

theorem get?_modify (catalog : Catalog α) (key other : String) (f : α → α) :
    (catalog.modify key f).get? other =
      if other = key then (catalog.get? other).map f else catalog.get? other :=
  Keyed.lookup_modify ..

theorem get?_map (f : α → β) (catalog : Catalog α) (key : String) :
    (catalog.map f).get? key = (catalog.get? key).map f :=
  Keyed.lookup_mapValues ..

end Catalog

end CatalogPages
