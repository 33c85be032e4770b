/-
**The order of names is canonical.**

A catalog is what its keys hold, whatever was inserted before, and its list by name is the one order
of its entries by name and then by key. So the list hangs on the content alone, and it keeps all of
it where libraries stand under their own keys.

* `Canonical`: entries by name, and by key where the names are one;
* `Canonical.map_eq_alphabetic`: the list by name has this order;
* `Leaves`: the value that insertions leave under a key;
* `canonical_alphabetic`: with these, what a list by name says about its catalog.
-/

import CatalogPages.Proofs.Catalog.Classification

namespace CatalogPages

namespace Catalog

variable {α : Type}

/-! ### By name and by key -/

/-- An entry comes before another: by its name in lower case, or by its key where the names are
one. -/
def Before (first second : String × Library) : Prop :=
  first.2.lowerName < second.2.lowerName ∨
    first.2.lowerName = second.2.lowerName ∧ first.1 < second.1

/-- The entries of a catalog in the order of their names, those of one name in the order of their
keys. -/
structure Canonical (catalog : Catalog Library) (order : List (String × Library)) : Prop where
  same : order.Perm catalog.entries
  ordered : order.Pairwise Before

theorem Before.asymm {first second : String × Library} (before : Before first second)
    (after : Before second first) : first = second := by
  rcases before with less | ⟨sameName, less⟩
  · rcases after with more | ⟨sameName, -⟩
    · exact absurd more (String.lt_asymm less)
    · exact absurd (sameName ▸ less) (String.lt_irrefl _)
  · rcases after with more | ⟨-, more⟩
    · exact absurd (sameName ▸ more) (String.lt_irrefl _)
    · exact absurd more (String.lt_asymm less)

/-- **There is one such order.** -/
theorem Canonical.unique {catalog : Catalog Library} {order other : List (String × Library)}
    (canonical : Canonical catalog order) (another : Canonical catalog other) : order = other :=
  List.Perm.eq_of_pairwise (fun _ _ _ _ => Before.asymm) canonical.ordered another.ordered
    (canonical.same.trans another.same.symm)

/-- Entries compared. -/
def entryLe (first second : String × Library) : Bool :=
  decide (first.2.lowerName < second.2.lowerName ∨
    first.2.lowerName = second.2.lowerName ∧ first.1 ≤ second.1)

theorem entryLe_trans (first second third : String × Library)
    (below : entryLe first second = true) (above : entryLe second third = true) :
    entryLe first third = true := by
  unfold entryLe at below above ⊢
  rcases of_decide_eq_true below with less | ⟨same, less⟩
  · rcases of_decide_eq_true above with more | ⟨same, -⟩
    · exact decide_eq_true (.inl (String.lt_trans less more))
    · exact decide_eq_true (.inl (same ▸ less))
  · rcases of_decide_eq_true above with more | ⟨same', more⟩
    · exact decide_eq_true (.inl (same ▸ more))
    · exact decide_eq_true (.inr ⟨same.trans same', String.le_trans less more⟩)

theorem entryLe_total (first second : String × Library) :
    (entryLe first second || entryLe second first) = true := by
  unfold entryLe
  rw [← Bool.decide_or]
  refine decide_eq_true ?_
  rcases Std.lt_trichotomy first.2.lowerName second.2.lowerName with less | same | more
  · exact .inl (.inl less)
  · exact (String.le_total first.1 second.1).imp (fun below => .inr ⟨same, below⟩)
      fun above => .inr ⟨same.symm, above⟩
  · exact .inr (.inl more)

/-- Sorting brings the entries into this order, since no key is there twice. -/
theorem canonical_mergeSort (catalog : Catalog Library) :
    Canonical catalog (catalog.entries.mergeSort entryLe) where
  same := List.mergeSort_perm catalog.entries entryLe
  ordered := by
    have sorted := List.pairwise_mergeSort entryLe_trans entryLe_total catalog.entries
    have distinct : (catalog.entries.mergeSort entryLe).Pairwise fun first second =>
        first.1 ≠ second.1 := by
      have keys := (List.mergeSort_perm catalog.entries entryLe).map Prod.fst
      exact List.pairwise_map.mp (keys.nodup_iff.mpr catalog.nodup_keys)
    refine sorted.imp₂ (fun first second below differ => ?_) distinct
    exact (of_decide_eq_true below).imp_right fun ⟨same, less⟩ =>
      ⟨same, Std.lt_of_le_of_ne less differ⟩

/-- Entries of one name, in the order of names and keys, stand as they stand in the catalog. -/
theorem Canonical.filter_eq {catalog : Catalog Library} {order : List (String × Library)}
    (canonical : Canonical catalog order) (name : String) :
    order.filter (·.2.lowerName = name) = catalog.entries.filter (·.2.lowerName = name) := by
  have ascending : Keyed.Ascending (order.filter (·.2.lowerName = name)) := by
    refine List.pairwise_filter.mpr (canonical.ordered.imp fun before isFirst isSecond => ?_)
    have sameName := (of_decide_eq_true isFirst).trans (of_decide_eq_true isSecond).symm
    rcases before with less | ⟨-, less⟩
    · exact absurd (sameName ▸ less) (String.lt_irrefl _)
    · exact less
  exact ascending.eq_of_perm (catalog.ascending.filter _) (canonical.same.filter _)

/-- **The list by name has the order of names and keys.** -/
theorem Canonical.map_eq_alphabetic {catalog : Catalog Library} {order : List (String × Library)}
    (canonical : Canonical catalog order) : order.map Prod.snd = catalog.alphabetic := by
  have byName : ByName catalog.values (order.map Prod.snd) := {
    same := canonical.same.map Prod.snd
    ordered := List.pairwise_map.mpr (canonical.ordered.imp fun before => by
      rcases before with less | ⟨same, -⟩
      · exact Std.le_of_lt less
      · exact same ▸ String.le_refl _)
    stable := fun name => by
      unfold values
      rw [List.filter_map, List.filter_map]
      exact congrArg (List.map Prod.snd) (canonical.filter_eq name) }
  exact byName.unique (byName_alphabetic catalog)

/-! ### What insertions leave -/

/-- Pairs that are inserted one after another leave a value under a key: none after it has the
key. -/
def Leaves (pairs : List (String × α)) (key : String) (value : α) : Prop :=
  ∃ earlier later, pairs = earlier ++ (key, value) :: later ∧ ∀ pair ∈ later, pair.1 ≠ key

/-- **A key holds what the insertions leave there.** -/
theorem get?_ofList (pairs : List (String × α)) (key : String) (value : α) :
    (ofList pairs).get? key = some value ↔ Leaves pairs key value := by
  rw [get?, entries_ofList, Keyed.lookup_ofList, List.lookup_eq_some_iff]
  constructor
  · rintro ⟨later, earlier, split, last⟩
    refine ⟨earlier.reverse, later.reverse, ?_, fun pair member => ?_⟩
    · rw [← pairs.reverse_reverse, split]
      simp
    · exact Ne.symm (bne_iff_ne.mp (last pair (List.mem_reverse.mp member)))
  · rintro ⟨earlier, later, rfl, last⟩
    refine ⟨later.reverse, earlier.reverse, by simp, fun pair member => ?_⟩
    exact bne_iff_ne.mpr (Ne.symm (last pair (List.mem_reverse.mp member)))

/-- Where no key is repeated, every pair is left. -/
theorem leaves_iff_mem {pairs : List (String × α)} (distinct : (pairs.map Prod.fst).Nodup)
    (key : String) (value : α) : Leaves pairs key value ↔ (key, value) ∈ pairs := by
  constructor
  · rintro ⟨earlier, later, rfl, -⟩
    simp
  · intro member
    obtain ⟨earlier, later, rfl⟩ := List.mem_iff_append.mp member
    refine ⟨earlier, later, rfl, fun pair among same => ?_⟩
    rw [List.map_append, List.map_cons] at distinct
    have apart := (List.nodup_cons.mp (List.nodup_append.mp distinct).2.1).1
    exact apart (List.mem_map.mpr ⟨pair, among, same⟩)

/-- **A catalog is what its keys hold.** -/
theorem ext_get? {first second : Catalog α}
    (same : ∀ key value, first.get? key = some value ↔ second.get? key = some value) :
    first = second :=
  eq_of_entries (first.ascending.ext second.ascending fun key => Option.ext (same key))

theorem KeyedBy.ofList_alphabetic {catalog : Catalog Library}
    (keyed : catalog.KeyedBy Library.key) :
    ofList (catalog.alphabetic.map fun library => (library.key, library)) = catalog := by
  refine ext_get? fun key library => ?_
  have distinct : ((catalog.alphabetic.map fun library => (library.key, library)).map
      Prod.fst).Nodup := by
    rw [List.map_map]
    exact keyed.nodup_alphabetic
  rw [get?_ofList, leaves_iff_mem distinct]
  constructor
  · intro member
    obtain ⟨_, listed, pair⟩ := List.mem_map.mp member
    cases pair
    exact (keyed.mem_alphabetic_iff library).mp listed
  · intro found
    obtain rfl := keyed key library found
    exact List.mem_map_of_mem (f := fun library => (library.key, library))
      ((keyed.mem_alphabetic_iff library).mpr found)

/-- **The list by name is the canonical order of a catalog.** It is the one order of the entries by
name and then by key. Insertions that leave the same under each key come to the same list, and to
the same classification whatever the registry is. And where libraries stand under their own keys,
the list brings the catalog back. -/
theorem canonical_alphabetic (catalog : Catalog Library) :
    (∃ order, Canonical catalog order ∧ (∀ other, Canonical catalog other → other = order) ∧
      catalog.alphabetic = order.map Prod.snd) ∧
    (∀ first second : List (String × Library),
      (∀ key library, Leaves first key library ↔ Leaves second key library) →
      (ofList first).alphabetic = (ofList second).alphabetic ∧
        ∀ registry, classify registry (ofList first) = classify registry (ofList second)) ∧
    (catalog.KeyedBy Library.key →
      ofList (catalog.alphabetic.map fun library => (library.key, library)) = catalog) := by
  refine ⟨?_, fun first second same => ?_, KeyedBy.ofList_alphabetic⟩
  · have canonical := canonical_mergeSort catalog
    exact ⟨_, canonical, fun other another => another.unique canonical,
      canonical.map_eq_alphabetic.symm⟩
  · have one : ofList first = ofList second := ext_get? fun key library => by
      rw [get?_ofList, get?_ofList]
      exact same key library
    exact ⟨congrArg alphabetic one, fun registry => congrArg (classify registry) one⟩

/-- Three libraries, inserted backwards, one of them under a name that it does not keep. -/
def insertedBackwards : List (String × Library) :=
  ("core", Metadata.normalize { key := "core", name := some "Z" }) ::
    threeLibraries.entries.reverse

/-- What is inserted last under a key counts, and the order of insertion does not. Libraries of one
name, whatever its case, stand by their keys. -/
theorem canonical_alphabetic_insertedBackwards :
    (∀ key library, Leaves insertedBackwards key library ↔
        Leaves threeLibraries.entries key library) ∧
      (ofList insertedBackwards).alphabetic = (ofList threeLibraries.entries).alphabetic ∧
      (ofList insertedBackwards).alphabetic.map Library.key = ["bind", "core", "any"] ∧
      (∃ order, Canonical threeLibraries order ∧
        order.map (·.2.key) = ["bind", "core", "any"]) ∧
      threeLibraries.KeyedBy Library.key ∧
      ofList (threeLibraries.alphabetic.map fun library => (library.key, library)) =
        threeLibraries := by
  have one : ofList insertedBackwards = ofList threeLibraries.entries := eq_of_entries (by cbv)
  have same (key : String) (library : Library) : Leaves insertedBackwards key library ↔
      Leaves threeLibraries.entries key library := by
    rw [← get?_ofList, one, get?_ofList]
  have keyed : threeLibraries.KeyedBy Library.key := keyedBy_iff_entries.mpr (by decide)
  have listed : threeLibraries.alphabetic.map Library.key = ["bind", "core", "any"] := by cbv
  obtain ⟨⟨order, canonical, -, byName⟩, histories, again⟩ := canonical_alphabetic threeLibraries
  refine ⟨same, (histories _ _ same).1, ?_, ⟨order, canonical, ?_⟩, keyed, again keyed⟩
  · rwa [one, ofList_entries]
  · rwa [byName, List.map_map] at listed

end Catalog

end CatalogPages
