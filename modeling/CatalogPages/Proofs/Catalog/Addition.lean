/-
**One more library adds its own lines.**

When a library with a new key joins a catalog, its key is added to the list by name and to the
categories that it lists. No other key comes, goes or changes its place.

* `filter_insert`: without the new key, the entries are those that there were;
* `KeyedBy.filter_alphabetic`: and so are the libraries by name;
* `KeyedBy.count_scan`: the new key is in the scans that keep the library, once;
* `AddsLines`: classifications that differ in the lines of one library;
* `classify_insert`: those before and after a library has joined.
-/

import CatalogPages.Proofs.Catalog.Classification

namespace CatalogPages

namespace Catalog

/-! ### Catalogs with one more entry -/

section Entries

variable {α : Type} {catalog : Catalog α}

/-- **Without the new key, the entries are those that there were.** -/
theorem filter_insert {key : String} (absent : catalog.get? key = none) (value : α) :
    (catalog.insert key value).entries.filter (·.1 ≠ key) = catalog.entries := by
  have unlisted := not_mem_keys absent
  have others : catalog.entries.filter (·.1 ≠ key) = catalog.entries := by
    refine List.filter_eq_self.mpr fun entry member => decide_eq_true fun same => ?_
    exact unlisted (List.mem_map.mpr ⟨entry, member, same⟩)
  have shuffled := (Keyed.put_perm value unlisted).filter (·.1 ≠ key)
  rw [List.filter_cons_of_neg (by simp), others] at shuffled
  exact Keyed.Ascending.eq_of_perm ((catalog.insert key value).ascending.filter _)
    catalog.ascending shuffled

/-- A value that joins under its own key stands under it, as the others do. -/
theorem KeyedBy.insert {keyOf : α → String} (keyed : catalog.KeyedBy keyOf) (value : α) :
    (catalog.insert (keyOf value) value).KeyedBy keyOf := by
  intro key other found
  rw [get?_insert] at found
  split at found
  · next same =>
    cases found
    exact same.symm
  · exact keyed key other found

end Entries

/-! ### Libraries by name -/

variable {catalog : Catalog Library} {library : Library}

/-- **The others stay in their order** when a library joins, those of its name included. -/
theorem KeyedBy.filter_alphabetic (keyed : catalog.KeyedBy Library.key)
    (absent : catalog.get? library.key = none) :
    (catalog.insert library.key library).alphabetic.filter (·.key ≠ library.key) =
      catalog.alphabetic := by
  have values : (catalog.insert library.key library).values.filter (·.key ≠ library.key) =
      catalog.values := by
    unfold Catalog.values
    rw [List.filter_map, ← filter_insert absent library]
    refine congrArg (List.map Prod.snd) (List.filter_congr fun entry member => ?_)
    rw [← keyedBy_iff_entries.mp (keyed.insert library) entry member]
    rfl
  have order := (byName_alphabetic (catalog.insert library.key library)).filter
    (·.key ≠ library.key)
  rw [values] at order
  exact order.unique (byName_alphabetic catalog)

/-- A scan that is made before is the one that is made after, without the new key. -/
theorem KeyedBy.filter_scan (keyed : catalog.KeyedBy Library.key)
    (absent : catalog.get? library.key = none) (keep : Library → Bool) :
    (((catalog.insert library.key library).alphabetic.filter keep).map Library.key).filter
        (· ≠ library.key) =
      (catalog.alphabetic.filter keep).map Library.key := by
  rw [List.filter_map, List.filter_comm, ← keyed.filter_alphabetic absent]
  rfl

/-- **The new key is in the scans that keep the library, once.** -/
theorem KeyedBy.count_scan (keyed : catalog.KeyedBy Library.key) (library : Library)
    (keep : Library → Bool) :
    (((catalog.insert library.key library).alphabetic.filter keep).map Library.key).count
        library.key =
      if keep library then 1 else 0 := by
  have scan := (keyed.insert library).scan keep
  have complete := scan.complete library.key
  rw [get?_insert, if_pos rfl] at complete
  by_cases keeps : keep library = true
  · rw [if_pos keeps]
    exact List.count_eq_one_of_mem scan.once (complete.mpr ⟨library, rfl, keeps⟩)
  · rw [if_neg keeps]
    refine List.count_eq_zero_of_not_mem fun listed => ?_
    obtain ⟨other, same, kept⟩ := complete.mp listed
    cases same
    exact keeps kept

end Catalog

/-! ### Classifications -/

/-- A classification in which the lines of one key are left out. -/
def Classification.without (classification : Classification) (key : String) : Classification where
  categories := classification.categories.map fun entry =>
    { entry with libraryKeys := entry.libraryKeys.filter (· ≠ key) }
  alphabetic := classification.alphabetic.filter (· ≠ key)

/-- Classifications of which the second has the lines of one library, and is the first without
them. The library has a line among all, and one in each category that it lists. -/
structure AddsLines (library : Library) (before after : Classification) : Prop where
  others : after.without library.key = before
  all : after.alphabetic.count library.key = 1
  categories : ∀ entry ∈ after.categories, entry.libraryKeys.count library.key =
    if entry.category.key ∈ library.category then 1 else 0

/-- Without the lines of the library, the scans after it has joined are those before. -/
theorem Catalog.KeyedBy.without_byCategory {catalog : Catalog Library} {library : Library}
    (keyed : catalog.KeyedBy Library.key) (absent : catalog.get? library.key = none)
    (registry : Registry) :
    ((catalog.insert library.key library).byCategory registry).without library.key =
      catalog.byCategory registry := by
  have all := keyed.filter_scan absent fun _ => true
  rw [List.filter_true, List.filter_true] at all
  unfold Classification.without byCategory
  rw [all, List.map_map]
  refine congrArg (Classification.mk · _) (List.map_congr_left fun category _ => ?_)
  exact congrArg (CategoryEntry.mk category) (keyed.filter_scan absent (category.key ∈ ·.category))

/-- **One more library adds its own lines.** Whatever the registry is, a catalog of libraries under
their own keys can be classified before and after a library with a new key has joined it. Without
the lines of the library the classification is what it was before. Its key stands once among all
keys, and once in each category that the library lists, however often it does, and in no other. -/
theorem classify_insert (registry : Registry) (catalog : Catalog Library) (library : Library)
    (keyed : catalog.KeyedBy Library.key) (absent : catalog.get? library.key = none) :
    ∃ before after, (classify registry catalog).result = .ok before ∧
      (classify registry (catalog.insert library.key library)).result = .ok after ∧
      AddsLines library before after := by
  refine ⟨_, _, keyed.result_classify registry, (keyed.insert library).result_classify registry,
    keyed.without_byCategory absent registry, ?_, fun entry member => ?_⟩
  · have once := keyed.count_scan library fun _ => true
    rwa [List.filter_true] at once
  · obtain ⟨category, -, rfl⟩ := List.mem_map.mp member
    have once := keyed.count_scan library (category.key ∈ ·.category)
    simpa only [decide_eq_true_eq] using once

/-- A library of the name that two of the three have, which lists a category twice and one that no
registry has. -/
def oneMore : Library :=
  Metadata.normalize
    { key := "boost", name := some "A", category := ["Data", "Data", "Unheard-of"] }

/-- The new key stands between those of its name, and once in both categories of its key. -/
theorem classify_insert_oneMore :
    threeLibraries.KeyedBy Library.key ∧ threeLibraries.get? oneMore.key = none ∧
      ∃ before after, (classify twoOfOneKey threeLibraries).result = .ok before ∧
        (classify twoOfOneKey (threeLibraries.insert oneMore.key oneMore)).result = .ok after ∧
        AddsLines oneMore before after ∧
        after = {
          categories := [⟨⟨"Data", "Data"⟩, ["boost", "core", "any"]⟩,
            ⟨⟨"Data", "Again"⟩, ["boost", "core", "any"]⟩]
          alphabetic := ["bind", "boost", "core", "any"] } := by
  have keyed : threeLibraries.KeyedBy Library.key := Catalog.keyedBy_iff_entries.mpr (by decide)
  have absent : threeLibraries.get? oneMore.key = none := by decide
  obtain ⟨before, after, earlier, later, adds⟩ :=
    classify_insert twoOfOneKey threeLibraries oneMore keyed absent
  refine ⟨keyed, absent, before, after, earlier, later, adds, Except.ok.inj (later.symm.trans ?_)⟩
  cbv

end CatalogPages
