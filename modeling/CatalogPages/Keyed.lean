/-
**Entries in key order.**

A finite map is a list of keys and values with the keys in ascending order.

* `put` inserts in one pass and exchanges the value of a key that is there;
* `lookup_put`: it changes what is found under its own key and no other, on any list;
* `lookup_mapValues`, `lookup_modify`: what is found after a change of all values, or of one;
* `Ascending.put`: it keeps the order.
-/

namespace CatalogPages.Keyed

variable {α β : Type}

/-- The keys stand in strictly ascending order. -/
def Ascending (entries : List (String × α)) : Prop :=
  entries.Pairwise fun first second => first.1 < second.1

instance (entries : List (String × α)) : Decidable (Ascending entries) :=
  inferInstanceAs (Decidable (entries.Pairwise fun first second => first.1 < second.1))

/-- Sets the value of a key. -/
def put (key : String) (value : α) : List (String × α) → List (String × α)
  | [] => [(key, value)]
  | entry :: rest =>
    if key < entry.1 then (key, value) :: entry :: rest
    else if key = entry.1 then (key, value) :: rest
    else entry :: put key value rest

/-- The map of a list of keys and values; the last value of a key counts. -/
def ofList (pairs : List (String × α)) : List (String × α) :=
  pairs.foldl (fun entries (key, value) => put key value entries) []

/-- The map with values exchanged one by one. -/
def mapValues (f : α → β) (entries : List (String × α)) : List (String × β) :=
  entries.map fun (key, value) => (key, f value)

/-- Changes the value of a key, if there is one. -/
def modify (key : String) (f : α → α) (entries : List (String × α)) : List (String × α) :=
  entries.map fun (k, value) => (k, if k = key then f value else value)

theorem lookup_cons_of_eq (key : String) (value : α) (rest : List (String × α)) :
    ((key, value) :: rest).lookup key = some value := by
  simp

theorem lookup_cons_of_ne {key other : String} (differ : other ≠ key) (value : α)
    (rest : List (String × α)) : ((key, value) :: rest).lookup other = rest.lookup other := by
  simp [List.lookup_cons, beq_false_of_ne differ]

theorem lookup_put_self (key : String) (value : α) (entries : List (String × α)) :
    (put key value entries).lookup key = some value := by
  induction entries with
  | nil => exact lookup_cons_of_eq ..
  | cons entry rest ih =>
    unfold put
    split
    · exact lookup_cons_of_eq ..
    · split
      · exact lookup_cons_of_eq ..
      · next _ differ => rw [lookup_cons_of_ne differ, ih]

theorem lookup_put_of_ne {key other : String} (differ : other ≠ key) (value : α)
    (entries : List (String × α)) :
    (put key value entries).lookup other = entries.lookup other := by
  induction entries with
  | nil => exact lookup_cons_of_ne differ ..
  | cons entry rest ih =>
    obtain ⟨first, held⟩ := entry
    unfold put
    split
    · exact lookup_cons_of_ne differ ..
    · split
      · next _ same =>
        rw [lookup_cons_of_ne differ, ← lookup_cons_of_ne (same ▸ differ) held rest]
      · simp only [List.lookup_cons, ih]

/-- What is found after a key has been set. -/
theorem lookup_put (key other : String) (value : α) (entries : List (String × α)) :
    (put key value entries).lookup other =
      if other = key then some value else entries.lookup other := by
  split
  · next same => rw [same, lookup_put_self]
  · next differ => exact lookup_put_of_ne differ value entries

/-- What is found after the values have been exchanged. -/
theorem lookup_mapValues (f : α → β) (name : String) (entries : List (String × α)) :
    (mapValues f entries).lookup name = (entries.lookup name).map f := by
  induction entries with
  | nil => rfl
  | cons entry rest ih =>
    obtain ⟨first, held⟩ := entry
    show ((first, f held) :: mapValues f rest).lookup name = _
    by_cases same : name = first
    · subst same
      rw [lookup_cons_of_eq, lookup_cons_of_eq, Option.map_some]
    · rw [lookup_cons_of_ne same, lookup_cons_of_ne same, ih]

/-- What is found after the value of a key has been changed. -/
theorem lookup_modify (key : String) (f : α → α) (name : String) (entries : List (String × α)) :
    (modify key f entries).lookup name =
      if name = key then (entries.lookup name).map f else entries.lookup name := by
  induction entries with
  | nil => simp [modify]
  | cons entry rest ih =>
    obtain ⟨first, held⟩ := entry
    show ((first, if first = key then f held else held) :: modify key f rest).lookup name = _
    by_cases same : name = first
    · subst same
      rw [lookup_cons_of_eq, lookup_cons_of_eq, Option.map_some]
      split
      · rfl
      · rfl
    · rw [lookup_cons_of_ne same, lookup_cons_of_ne same, ih]

theorem ascending_nil : Ascending ([] : List (String × α)) :=
  List.Pairwise.nil

/-- Every key of the result is the one that was set or was there before. -/
theorem key_of_mem_put {key : String} {value : α} {entries : List (String × α)}
    {entry : String × α} (member : entry ∈ put key value entries) :
    entry.1 = key ∨ entry ∈ entries := by
  induction entries with
  | nil => simp_all [put]
  | cons head rest ih =>
    unfold put at member
    split at member
    · rcases List.mem_cons.mp member with rfl | member
      · exact .inl rfl
      · exact .inr member
    · split at member
      · rcases List.mem_cons.mp member with rfl | member
        · exact .inl rfl
        · exact .inr (List.mem_cons_of_mem _ member)
      · rcases List.mem_cons.mp member with rfl | member
        · exact .inr List.mem_cons_self
        · exact (ih member).imp_right (List.mem_cons_of_mem _)

/-- Setting a key keeps the order. -/
theorem Ascending.put {entries : List (String × α)} (sorted : Ascending entries) (key : String)
    (value : α) : Ascending (put key value entries) := by
  induction entries with
  | nil => simp [Keyed.put, Ascending]
  | cons head rest ih =>
    have ⟨above, tail⟩ := List.pairwise_cons.mp sorted
    unfold Keyed.put
    split
    · next less =>
      refine List.pairwise_cons.mpr ⟨fun entry member => ?_, sorted⟩
      rcases List.mem_cons.mp member with rfl | member
      · exact less
      · exact String.lt_trans less (above entry member)
    · next least =>
      split
      · next same => exact List.pairwise_cons.mpr ⟨by simpa [same] using above, tail⟩
      · next differ =>
        refine List.pairwise_cons.mpr ⟨fun entry member => ?_, ih tail⟩
        rcases key_of_mem_put member with same | old
        · rcases Std.lt_trichotomy head.1 key with less | equal | greater
          · simpa [same] using less
          · exact absurd equal.symm differ
          · exact absurd greater least
        · exact above entry old

theorem ascending_ofList (pairs : List (String × α)) : Ascending (ofList pairs) := by
  suffices ∀ entries : List (String × α), Ascending entries →
      Ascending (pairs.foldl (fun entries (key, value) => put key value entries) entries) from
    this [] ascending_nil
  induction pairs with
  | nil => exact fun _ sorted => sorted
  | cons pair rest ih => exact fun _ sorted => ih _ (sorted.put _ _)

@[simp] theorem keys_mapValues (f : α → β) (entries : List (String × α)) :
    (mapValues f entries).map Prod.fst = entries.map Prod.fst := by
  simp [mapValues, Function.comp_def]

@[simp] theorem keys_modify (key : String) (f : α → α) (entries : List (String × α)) :
    (modify key f entries).map Prod.fst = entries.map Prod.fst := by
  simp [modify, Function.comp_def]

/-- The order hangs on the keys alone. -/
theorem ascending_iff_keys (entries : List (String × α)) :
    Ascending entries ↔ (entries.map Prod.fst).Pairwise (· < ·) := by
  simp [Ascending, List.pairwise_map]

theorem Ascending.mapValues {entries : List (String × α)} (sorted : Ascending entries)
    (f : α → β) : Ascending (mapValues f entries) := by
  rw [ascending_iff_keys, keys_mapValues, ← ascending_iff_keys]
  exact sorted

theorem Ascending.modify {entries : List (String × α)} (sorted : Ascending entries)
    (key : String) (f : α → α) : Ascending (modify key f entries) := by
  rw [ascending_iff_keys, keys_modify, ← ascending_iff_keys]
  exact sorted

end CatalogPages.Keyed
