/-
**Catalogs after any history.**

Whatever is done to a catalog, one after another, it is a finite map from the keys that have been
inserted to the values that were inserted or made of them last.

* `History`: what is done to a catalog from the empty one on; `History.run` does it;
* `History.inserted`, `History.last`: the keys that have been inserted since the catalog was last
  rebuilt, and what was given to each of them last;
* `Follows`: a catalog that has these keys and these values; `Follows.insert`, `Follows.update`,
  `Follows.map`, `follows_ofList`: it still does after each step;
* `Shows`: what can be asked of such a catalog, and the answers;
* `run_shows`: with these, every catalog shows its history.
-/

import CatalogPages.Proofs.Catalog.Order
import CatalogPages.Proofs.Text.ByteOrder
import Mathlib.Data.Finset.Card

namespace CatalogPages.Catalog

variable {α β : Type}

/-! ### Histories -/

/-- What is done to a catalog, one after another, from the empty one on. -/
inductive History : Type → Type 1
  | empty {α : Type} : History α
  /-- A value is set. -/
  | insert {α : Type} (history : History α) (key : String) (value : α) : History α
  /-- The value of a key is changed, if there is one. -/
  | update {α : Type} (history : History α) (key : String) (change : α → α) : History α
  /-- All values are changed. -/
  | map {α β : Type} (history : History α) (f : α → β) : History β
  /-- The catalog is built anew. -/
  | collect {α β : Type} (history : History α) (pairs : List (String × β)) : History β

namespace History

/-- The catalog that a history comes to. -/
def run : {α : Type} → History α → Catalog α
  | _, empty => Catalog.empty
  | _, insert history key value => (history.run.exchange key value).2
  | _, update history key change => history.run.modify key change
  | _, map history f => history.run.map f
  | _, collect _ pairs => ofList pairs

/-- The keys that have been inserted since the catalog was last built anew. -/
def inserted : {α : Type} → History α → Finset String
  | _, empty => ∅
  | _, insert history key _ => Insert.insert key history.inserted
  | _, update history _ _ => history.inserted
  | _, map history _ => history.inserted
  | _, collect _ pairs => (pairs.map Prod.fst).toFinset

/-- The value that was given to a key last. -/
def last : {α : Type} → History α → String → Option α
  | _, empty, _ => none
  | _, insert history key value, name => if name = key then some value else history.last name
  | _, update history key change, name =>
    if name = key then (history.last name).map change else history.last name
  | _, map history f, name => (history.last name).map f
  | _, collect _ pairs, name => pairs.reverse.lookup name

end History

/-! ### One step after another -/

/-- A catalog that holds, under each of some keys, the value that was given to it last. -/
structure Follows (catalog : Catalog α) (inserted : Finset String) (last : String → Option α) :
    Prop where
  get? : ∀ key, catalog.get? key = last key
  given : ∀ key, key ∈ inserted ↔ ∃ value, last key = some value

namespace Follows

variable {catalog : Catalog α} {inserted : Finset String} {last : String → Option α}

theorem insert (follows : Follows catalog inserted last) (key : String) (value : α) :
    Follows (catalog.exchange key value).2 (Insert.insert key inserted)
      fun name => if name = key then some value else last name where
  get? name := by
    rw [exchange, get?_insert, follows.get? name]
  given name := by
    rw [Finset.mem_insert, follows.given name]
    split
    · next same => simp [same]
    · next differ => simp [differ]

theorem update (follows : Follows catalog inserted last) (key : String) (change : α → α) :
    Follows (catalog.modify key change) inserted
      fun name => if name = key then (last name).map change else last name where
  get? name := by
    rw [get?_modify, follows.get? name]
  given name := by
    rw [follows.given name]
    split
    · simp
    · rfl

theorem map (follows : Follows catalog inserted last) (f : α → β) :
    Follows (catalog.map f) inserted fun name => (last name).map f where
  get? name := by
    rw [get?_map, follows.get? name]
  given name := by
    rw [follows.given name]
    simp

end Follows

/-- A catalog that is built of pairs holds the last value of each key. -/
theorem follows_ofList (pairs : List (String × α)) :
    Follows (ofList pairs) (pairs.map Prod.fst).toFinset fun name => pairs.reverse.lookup name where
  get? name := by
    rw [get?, entries_ofList, Keyed.lookup_ofList]
  given name := by
    rw [List.mem_toFinset, ← Option.isSome_iff_exists, List.lookup_isSome_iff]
    simp

/-- **A catalog follows its history.** -/
theorem follows_run (history : History α) : Follows history.run history.inserted history.last := by
  induction history with
  | empty => exact ⟨fun _ => rfl, fun key => by simp [History.inserted, History.last]⟩
  | insert _ key value ih => exact ih.insert key value
  | update _ key change ih => exact ih.update key change
  | map _ f ih => exact ih.map f
  | collect _ pairs => exact follows_ofList pairs

/-! ### What a catalog shows -/

/-- The answers that a catalog gives: its keys are those that have been inserted, in the order of
their bytes, and to each of them belongs the value that was given to it last, however it is asked
for. -/
structure Shows (catalog : Catalog α) (inserted : Finset String) (last : String → Option α) :
    Prop where
  ascending : catalog.keys.Pairwise fun first second => Text.bytes first < Text.bytes second
  size : catalog.size = inserted.card
  isEmpty : catalog.isEmpty = true ↔ inserted = ∅
  get? : ∀ key, catalog.get? key = last key
  contains : ∀ key, catalog.contains key = true ↔ key ∈ inserted
  keys : ∀ key, key ∈ catalog.keys ↔ key ∈ inserted
  entries : ∀ key value, (key, value) ∈ catalog.entries ↔ last key = some value
  values : catalog.entries = catalog.keys.zip catalog.values

theorem Follows.shows {catalog : Catalog α} {inserted : Finset String}
    {last : String → Option α} (follows : Follows catalog inserted last) :
    Shows catalog inserted last := by
  have keys (key : String) : key ∈ catalog.keys ↔ key ∈ inserted := by
    rw [mem_keys_iff, follows.given]
    simp only [follows.get?]
  have same : catalog.keys.toFinset = inserted := by
    ext key
    rw [List.mem_toFinset, keys]
  have size : catalog.size = inserted.card := by
    rw [← same, List.toFinset_card_of_nodup catalog.nodup_keys]
    exact (List.length_map _).symm
  exact {
    ascending := by
      have ascending := (Keyed.ascending_iff_keys _).mp catalog.ascending
      exact ascending.imp Text.bytes_lt_iff.mpr
    size
    isEmpty := by
      rw [← Finset.card_eq_zero, ← size]
      exact List.isEmpty_iff_length_eq_zero
    get? := follows.get?
    contains := fun key => by
      rw [contains, Option.isSome_iff_exists, ← mem_keys_iff, keys]
    keys
    entries := fun key value => by
      rw [← get?_eq_some_iff, follows.get?]
    values := List.zip_of_prod rfl rfl }

/-- A change of all values keeps their order. -/
theorem values_map (f : α → β) (catalog : Catalog α) :
    (catalog.map f).values = catalog.values.map f := by
  show (Keyed.mapValues f catalog.entries).map Prod.snd = (catalog.entries.map Prod.snd).map f
  rw [Keyed.mapValues, List.map_map, List.map_map]
  rfl

/-- Insertions one after another go on from the catalog that is there. -/
theorem run_foldl_insert (pairs : List (String × α)) : ∀ history : History α,
    (pairs.foldl (fun built pair => built.insert pair.1 pair.2) history).run =
      pairs.foldl (fun catalog pair => catalog.insert pair.1 pair.2) history.run := by
  induction pairs with
  | nil => exact fun _ => rfl
  | cons pair pairs ih => exact fun history => ih (history.insert pair.1 pair.2)

/-- **A catalog is the finite map of its history.** After any history its keys, its size and its
values are those that the history gives. An insertion gives back the value in whose place it comes,
an update changes the value of its own key and no other, a change of all values changes each of them
once and keeps the keys, and a catalog that is built of pairs is that of inserting them one after
another. -/
theorem run_shows (history : History α) :
    Shows history.run history.inserted history.last ∧
    (∀ key value, history.run.exchange key value =
      (history.last key, (history.insert key value).run)) ∧
    (∀ key change, (history.update key change).run.keys = history.run.keys ∧
      ∀ other, other ≠ key →
        (history.update key change).run.get? other = history.run.get? other) ∧
    (∀ (β : Type) (f : α → β), (history.map f).run.keys = history.run.keys ∧
      (history.map f).run.values = history.run.values.map f) ∧
    ∀ (β : Type) (pairs : List (String × β)), (history.collect pairs).run =
      (pairs.foldl (fun built pair => built.insert pair.1 pair.2) History.empty).run := by
  have follows := follows_run history
  refine ⟨follows.shows, fun key value => ?_, fun key change => ⟨?_, fun other differ => ?_⟩,
    fun β f => ⟨?_, values_map f history.run⟩, fun β pairs => ?_⟩
  · exact Prod.ext (follows.get? key) rfl
  · exact Keyed.keys_modify key change history.run.entries
  · exact (get?_modify ..).trans (if_neg differ)
  · exact Keyed.keys_mapValues f history.run.entries
  · exact (run_foldl_insert pairs History.empty).symm

end CatalogPages.Catalog
