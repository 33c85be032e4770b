/-
**The orders of a catalog.**

A catalog lists its values by key, and its libraries by name as well.

* `Keyed.lookup_ofList`: of several values of a key the last is kept;
* `Keyed.ofList_perm`: where no key is repeated, every value is;
* `get?_eq_some_iff`: what is found under a key is what the list has there;
* `KeyedBy`: every value stands under a key of its own;
* `Library.lowerName`, `sortKey_eq`: the name in lower case, which is what libraries are sorted by;
* `ByName`: a list in the order of names, where libraries of one name stay as they were;
* `ByName.unique`: there is only one such list;
* `byName_alphabetic`: it is how a catalog lists its libraries.
-/

import CatalogPages.Catalog
import Mathlib.Data.List.Nodup

namespace CatalogPages

/-! ### By key -/

/-- In a list with its keys in order, what is found under a key is what the list has there. -/
theorem Keyed.Ascending.lookup_eq_some_iff {α : Type} {entries : List (String × α)}
    (sorted : Keyed.Ascending entries) (key : String) (value : α) :
    entries.lookup key = some value ↔ (key, value) ∈ entries := by
  induction entries with
  | nil => simp
  | cons entry rest ih =>
    obtain ⟨first, held⟩ := entry
    have ⟨above, tail⟩ := List.pairwise_cons.mp sorted
    by_cases same : key = first
    · subst same
      have absent : (key, value) ∉ rest := fun member =>
        String.lt_irrefl key (above (key, value) member)
      rw [Keyed.lookup_cons_of_eq, List.mem_cons, or_iff_left absent]
      simp [eq_comm]
    · have elsewhere : (key, value) ≠ (first, held) := fun equal =>
        same (congrArg Prod.fst equal)
      rw [Keyed.lookup_cons_of_ne same, ih tail, List.mem_cons, or_iff_right elsewhere]

/-- Entries in the order of their keys have one order. -/
theorem Keyed.Ascending.eq_of_perm {α : Type} {entries others : List (String × α)}
    (sorted : Keyed.Ascending entries) (sorted' : Keyed.Ascending others)
    (same : entries.Perm others) : entries = others :=
  same.eq_of_pairwise (fun _ _ _ _ less more => absurd more (String.lt_asymm less)) sorted sorted'

theorem Keyed.lookup_foldl_put {α : Type} (name : String) (pairs : List (String × α)) :
    ∀ entries : List (String × α),
      (pairs.foldl (fun entries pair => Keyed.put pair.1 pair.2 entries) entries).lookup name =
        (pairs.reverse.lookup name).or (entries.lookup name) := by
  induction pairs with
  | nil => exact fun _ => rfl
  | cons pair pairs ih =>
    intro entries
    obtain ⟨key, value⟩ := pair
    rw [List.foldl_cons, ih, Keyed.lookup_put, List.reverse_cons, List.lookup_append,
      Option.or_assoc]
    congr 1
    by_cases same : name = key
    · simp [same]
    · simp [List.lookup_cons, beq_false_of_ne same, same]

/-- Of several values of a name the last is kept. -/
theorem Keyed.lookup_ofList {α : Type} (name : String) (pairs : List (String × α)) :
    (Keyed.ofList pairs).lookup name = pairs.reverse.lookup name := by
  rw [Keyed.ofList]
  have kept := Keyed.lookup_foldl_put name pairs []
  rwa [List.lookup_nil, Option.or_none] at kept

/-- Keys that ascend are not repeated. -/
theorem Keyed.Ascending.distinct_keys {α : Type} {entries : List (String × α)}
    (sorted : Keyed.Ascending entries) : (entries.map Prod.fst).Nodup := by
  refine List.Pairwise.imp ?_ ((Keyed.ascending_iff_keys entries).mp sorted)
  intro first second less equal
  exact String.lt_irrefl second (equal ▸ less)

/-- Entries in the order of their keys are what is found under them. -/
theorem Keyed.Ascending.ext {α : Type} {entries others : List (String × α)}
    (sorted : Keyed.Ascending entries) (sorted' : Keyed.Ascending others)
    (same : ∀ name, entries.lookup name = others.lookup name) : entries = others := by
  have members : ∀ entry, entry ∈ entries ↔ entry ∈ others := by
    intro entry
    rw [← sorted.lookup_eq_some_iff, ← sorted'.lookup_eq_some_iff, same]
  have shuffled : entries.Perm others :=
    (List.perm_ext_iff_of_nodup sorted.distinct_keys.of_map sorted'.distinct_keys.of_map).mpr
      members
  exact sorted.eq_of_perm sorted' shuffled

/-- A key that is new is added to the others. -/
theorem Keyed.put_perm {α : Type} {key : String} (value : α) {entries : List (String × α)}
    (unlisted : key ∉ entries.map Prod.fst) :
    (Keyed.put key value entries).Perm ((key, value) :: entries) := by
  induction entries with
  | nil => exact .refl _
  | cons entry rest ih =>
    have ⟨differ, later⟩ := not_or.mp (List.mem_cons.not.mp unlisted)
    unfold Keyed.put
    rw [if_neg differ]
    split
    · exact .refl _
    · exact ((ih later).cons entry).trans (.swap ..)

/-- Where no key is repeated, every pair is kept. -/
theorem Keyed.ofList_perm {α : Type} {pairs : List (String × α)}
    (distinct : (pairs.map Prod.fst).Nodup) : (Keyed.ofList pairs).Perm pairs := by
  suffices ∀ entries : List (String × α), ((pairs ++ entries).map Prod.fst).Nodup →
      (pairs.foldl (fun entries pair => Keyed.put pair.1 pair.2 entries) entries).Perm
        (pairs ++ entries) by
    have kept := this [] (by rwa [List.append_nil])
    rwa [List.append_nil] at kept
  clear distinct
  induction pairs with
  | nil => exact fun entries _ => .refl entries
  | cons pair pairs ih =>
    intro entries distinct
    have later : ((pairs ++ pair :: entries).map Prod.fst).Nodup :=
      (List.perm_middle.map Prod.fst).nodup_iff.mpr distinct
    have unlisted : pair.1 ∉ entries.map Prod.fst := by
      rw [List.map_append, List.map_cons] at later
      exact (List.nodup_cons.mp (List.nodup_append.mp later).2.1).1
    have added := Keyed.put_perm pair.2 unlisted
    refine (ih _ ?_).trans ((added.append_left pairs).trans List.perm_middle)
    exact ((added.append_left pairs).map Prod.fst).nodup_iff.mpr later

namespace Catalog

variable {α : Type}

theorem eq_of_entries {first second : Catalog α}
    (same : first.entries = second.entries) : first = second := by
  cases first
  cases second
  cases same
  rfl

theorem get?_eq_some_iff (catalog : Catalog α) (key : String) (value : α) :
    catalog.get? key = some value ↔ (key, value) ∈ catalog.entries :=
  catalog.ascending.lookup_eq_some_iff key value

/-- No key is listed twice. -/
theorem nodup_keys (catalog : Catalog α) : catalog.keys.Nodup :=
  catalog.ascending.distinct_keys

theorem mem_keys_iff (catalog : Catalog α) (key : String) :
    key ∈ catalog.keys ↔ ∃ value, catalog.get? key = some value := by
  simp [keys, get?_eq_some_iff]

theorem not_mem_keys {catalog : Catalog α} {key : String} (absent : catalog.get? key = none) :
    key ∉ catalog.keys := by
  rw [mem_keys_iff, absent]
  simp

theorem entries_ofList (pairs : List (String × α)) :
    (ofList pairs).entries = Keyed.ofList pairs := by
  suffices ∀ catalog : Catalog α,
      (pairs.foldl (fun catalog pair => catalog.insert pair.1 pair.2) catalog).entries =
        pairs.foldl (fun entries pair => Keyed.put pair.1 pair.2 entries) catalog.entries from
    this empty
  induction pairs with
  | nil => exact fun _ => rfl
  | cons pair pairs ih => exact fun catalog => ih _

/-- A catalog is the catalog of its entries. -/
theorem ofList_entries (catalog : Catalog α) : ofList catalog.entries = catalog := by
  refine eq_of_entries ?_
  rw [entries_ofList]
  exact (Keyed.ascending_ofList _).eq_of_perm catalog.ascending
    (Keyed.ofList_perm catalog.nodup_keys)

/-- Every value stands under its own key. -/
def KeyedBy (keyOf : α → String) (catalog : Catalog α) : Prop :=
  ∀ key value, catalog.get? key = some value → keyOf value = key

variable {keyOf : α → String} {catalog : Catalog α}

theorem keyedBy_iff_entries :
    catalog.KeyedBy keyOf ↔ ∀ entry ∈ catalog.entries, keyOf entry.2 = entry.1 := by
  constructor
  · intro keyed entry member
    exact keyed _ _ ((catalog.get?_eq_some_iff ..).mpr member)
  · intro keyed key value found
    exact keyed _ ((catalog.get?_eq_some_iff ..).mp found)

/-- The values of a catalog have its keys, in the same order. -/
theorem KeyedBy.map_values (keyed : catalog.KeyedBy keyOf) :
    catalog.values.map keyOf = catalog.keys := by
  unfold values keys
  rw [List.map_map]
  exact List.map_congr_left fun entry member => keyedBy_iff_entries.mp keyed entry member

/-- The values of a catalog are those found under their own keys. -/
theorem KeyedBy.mem_values_iff (keyed : catalog.KeyedBy keyOf) (value : α) :
    value ∈ catalog.values ↔ catalog.get? (keyOf value) = some value := by
  rw [get?_eq_some_iff]
  unfold values
  constructor
  · intro member
    obtain ⟨entry, listed, rfl⟩ := List.mem_map.mp member
    rw [keyedBy_iff_entries.mp keyed entry listed]
    exact listed
  · intro listed
    exact List.mem_map.mpr ⟨_, listed, rfl⟩

end Catalog

/-! ### By name -/

/-- The name of a library in lower case. -/
def Library.lowerName (library : Library) : String :=
  String.ofList (Text.lowercase library.name.toList)

/-- **A catalog sorts its libraries by their names in lower case.** -/
theorem Catalog.sortKey_eq (library : Library) : sortKey library = library.lowerName := rfl

/-- A list with the libraries of another in the order of their names. Libraries of one name,
whatever its case, stay in the order of the other list. -/
structure ByName (libraries sorted : List Library) : Prop where
  same : sorted.Perm libraries
  ordered : sorted.Pairwise fun first second => first.lowerName ≤ second.lowerName
  stable : ∀ name, sorted.filter (·.lowerName = name) = libraries.filter (·.lowerName = name)

namespace ByName

variable {libraries sorted other : List Library}

/-- Some of the libraries are in the order of their names where all of them are. -/
theorem filter (order : ByName libraries sorted) (keep : Library → Bool) :
    ByName (libraries.filter keep) (sorted.filter keep) where
  same := order.same.filter keep
  ordered := order.ordered.filter keep
  stable name := by
    rw [List.filter_comm, order.stable, List.filter_comm]

/-- The first library of one list has a name that is no greater than that of the first library of
another list with the same libraries. -/
theorem lowerName_le_of_stable {first second : Library} {firsts seconds : List Library}
    (ordered : (first :: firsts).Pairwise fun first second => first.lowerName ≤ second.lowerName)
    (stable : ∀ name, (first :: firsts).filter (·.lowerName = name) =
      (second :: seconds).filter (·.lowerName = name)) :
    first.lowerName ≤ second.lowerName := by
  have member : second ∈ (first :: firsts).filter (·.lowerName = second.lowerName) := by
    rw [stable]
    simp
  rcases List.mem_cons.mp (List.mem_filter.mp member).1 with rfl | later
  · exact String.le_refl _
  · exact List.rel_of_pairwise_cons ordered later

/-- Lists in order are equal where they have the same libraries of each name. -/
theorem eq_of_stable : ∀ {firsts seconds : List Library},
    (firsts.Pairwise fun first second => first.lowerName ≤ second.lowerName) →
    (seconds.Pairwise fun first second => first.lowerName ≤ second.lowerName) →
    (∀ name, firsts.filter (·.lowerName = name) = seconds.filter (·.lowerName = name)) →
    firsts = seconds := by
  intro firsts
  induction firsts with
  | nil =>
    intro seconds _ _ stable
    cases seconds with
    | nil => rfl
    | cons second seconds => simpa using stable second.lowerName
  | cons first firsts ih =>
    intro seconds firstOrdered secondOrdered stable
    cases seconds with
    | nil => simpa using stable first.lowerName
    | cons second seconds =>
      have sameName : first.lowerName = second.lowerName :=
        String.le_antisymm (lowerName_le_of_stable firstOrdered stable)
          (lowerName_le_of_stable secondOrdered fun name => (stable name).symm)
      have heads := stable second.lowerName
      rw [List.filter_cons_of_pos (by simpa using sameName), List.filter_cons_of_pos (by simp)]
        at heads
      obtain ⟨rfl, -⟩ := List.cons.inj heads
      refine congrArg (first :: ·) (ih firstOrdered.tail secondOrdered.tail fun name => ?_)
      have both := stable name
      rw [List.filter_cons, List.filter_cons] at both
      split at both
      · exact (List.cons.inj both).2
      · exact both

/-- **There is one order of names.** -/
theorem unique (order : ByName libraries sorted) (another : ByName libraries other) :
    sorted = other :=
  eq_of_stable order.ordered another.ordered fun name =>
    (order.stable name).trans (another.stable name).symm

end ByName

/-- Names compared. -/
def nameLe (first second : Library) : Bool :=
  decide (first.lowerName ≤ second.lowerName)

theorem nameLe_trans (first second third : Library) (below : nameLe first second = true)
    (above : nameLe second third = true) : nameLe first third = true :=
  decide_eq_true (String.le_trans (of_decide_eq_true below) (of_decide_eq_true above))

theorem nameLe_total (first second : Library) :
    (nameLe first second || nameLe second first) = true := by
  unfold nameLe
  rw [← Bool.decide_or]
  exact decide_eq_true (String.le_total _ _)

/-- Sorting brings libraries into the order of names. -/
theorem byName_mergeSort (libraries : List Library) :
    ByName libraries (libraries.mergeSort nameLe) where
  same := List.mergeSort_perm libraries nameLe
  ordered := (List.pairwise_mergeSort nameLe_trans nameLe_total libraries).imp of_decide_eq_true
  stable name := by
    -- Libraries of one name are in order as they stand, so that sorting keeps them as a sublist.
    have stays : (libraries.filter (·.lowerName = name)).Sublist
        (libraries.mergeSort nameLe) := by
      refine List.sublist_mergeSort nameLe_trans nameLe_total ?_ List.filter_sublist
      refine List.pairwise_filter.mpr ?_
      refine List.pairwise_of_forall fun first second isFirst isSecond => ?_
      have sameName := (of_decide_eq_true isFirst).trans (of_decide_eq_true isSecond).symm
      exact decide_eq_true (sameName ▸ String.le_refl _)
    have among := stays.filter (·.lowerName = name)
    rw [List.filter_filter] at among
    simp only [Bool.and_self] at among
    refine (among.eq_of_length ?_).symm
    exact ((List.mergeSort_perm libraries nameLe).filter _).length_eq.symm

/-- **A catalog lists its libraries in the order of their names.** -/
theorem byName_alphabetic (catalog : Catalog Library) :
    ByName catalog.values catalog.alphabetic := by
  have sorted : catalog.alphabetic = catalog.values.mergeSort nameLe := by
    unfold Catalog.alphabetic
    rw [List.map_mergeSort (s := nameLe), List.map_map]
    · congr 1
      exact List.map_id _
    · intro first isFirst second isSecond
      obtain ⟨first, -, rfl⟩ := List.mem_map.mp isFirst
      obtain ⟨second, -, rfl⟩ := List.mem_map.mp isSecond
      rw [nameLe, Catalog.sortKey_eq, Catalog.sortKey_eq]
  rw [sorted]
  exact byName_mergeSort catalog.values

end CatalogPages
