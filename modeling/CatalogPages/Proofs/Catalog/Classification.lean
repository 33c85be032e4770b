/-
**One pass is a scan for each category.**

The groups of all categories are collected in one pass over the libraries by name. For each category
this gives what a scan of the whole catalog for that category alone would give, put in the order of
names afterwards.

* `members_placedAll`: a library joins the groups that it lists, once each;
* `members_foldl_placedAll`: all libraries join them one after another;
* `Scan`: the keys of some libraries of a catalog, by name, none missing and none twice;
* `classify_eq_scan`: every entry is the scan for its category.
-/

import CatalogPages.Classification
import CatalogPages.Proofs.Catalog.Order
import Mathlib

namespace CatalogPages

namespace Classification

/-! ### Groups -/

/-- A group with a library in it, once. -/
def joined (members : List String) (library : String) : List String :=
  if library ∈ members then members else members ++ [library]

theorem mem_joined (members : List String) (library : String) : library ∈ joined members library := by
  unfold joined
  split
  · assumption
  · exact List.mem_append_right _ List.mem_cons_self

theorem joined_of_mem {members : List String} {library : String} (member : library ∈ members) :
    joined members library = members :=
  if_pos member

theorem joined_of_not_mem {members : List String} {library : String} (fresh : library ∉ members) :
    joined members library = members ++ [library] :=
  if_neg fresh

/-- A library that is added to a group joins it, and no other group changes. -/
theorem members_add (groups : Groups) (category library other : String) :
    (groups.add category library).members other =
      if other = category then joined (groups.members other) library else groups.members other := by
  unfold Groups.add
  by_cases here : library ∈ groups.members category
  · rw [if_pos (by simpa using here)]
    split
    · next same => rw [same, joined_of_mem here]
    · rfl
  · rw [if_neg (by simpa using here)]
    unfold Groups.members at here ⊢
    rw [Keyed.lookup_put]
    split
    · next same => rw [same, joined_of_not_mem here, Option.getD_some]
    · rfl

/-! ### One library -/

/-- The groups when a library has been placed in one category that it lists. -/
def placed (registry : Registry) (library : String) (groups : Groups) (category : String) : Groups :=
  if registry.contains category then groups.add category library else groups

/-- The groups when a library has been placed in all categories that it lists. -/
def placedAll (registry : Registry) (groups : Groups) (library : Library) : Groups :=
  library.category.foldl (placed registry library.key) groups

theorem result_place (registry : Registry) (library : String) (groups : Groups)
    (category : String) :
    (place registry library groups category).result =
      .ok (placed registry library groups category) := by
  unfold place placed
  split
  · rfl
  · rfl

theorem result_placeAll (registry : Registry) (groups : Groups) (library : Library) :
    (placeAll registry groups library).result = .ok (placedAll registry groups library) :=
  Traced.result_foldlM (result_place registry library.key) library.category groups

variable {registry : Registry} {category : String}

theorem members_placed (known : registry.contains category = true) (library : String)
    (groups : Groups) (listed : String) :
    (placed registry library groups listed).members category =
      if category = listed then joined (groups.members category) library
      else groups.members category := by
  unfold placed
  by_cases isKnown : registry.contains listed = true
  · rw [if_pos isKnown]
    exact members_add groups listed library category
  · have differ : category ≠ listed := fun same => isKnown (same ▸ known)
    rw [if_neg isKnown, if_neg differ]

/-- Placing a library where it lists a category more than once is placing it once. -/
theorem members_foldl_placed (known : registry.contains category = true) (library : String)
    (listed : List String) : ∀ groups : Groups,
    (listed.foldl (placed registry library) groups).members category =
      if category ∈ listed then joined (groups.members category) library
      else groups.members category := by
  induction listed with
  | nil => exact fun _ => rfl
  | cons first listed ih =>
    intro groups
    rw [List.foldl_cons, ih, members_placed known]
    by_cases same : category = first
    · rw [if_pos same, joined_of_mem (mem_joined _ library), ite_self,
        if_pos (same ▸ List.mem_cons_self)]
    · rw [if_neg same]
      by_cases later : category ∈ listed
      · rw [if_pos later, if_pos (List.mem_cons_of_mem _ later)]
      · have absent : category ∉ first :: listed := List.not_mem_cons_of_ne_of_not_mem same later
        rw [if_neg later, if_neg absent]

/-- **A library joins the groups that it lists, once each.** -/
theorem members_placedAll (known : registry.contains category = true) (groups : Groups)
    (library : Library) :
    (placedAll registry groups library).members category =
      if category ∈ library.category then joined (groups.members category) library.key
      else groups.members category :=
  members_foldl_placed known library.key library.category groups

/-! ### All libraries -/

/-- **Libraries with keys of their own join a group one after another.** -/
theorem members_foldl_placedAll (known : registry.contains category = true)
    (libraries : List Library) (distinct : (libraries.map Library.key).Nodup) :
    ∀ groups : Groups, (∀ library ∈ libraries, library.key ∉ groups.members category) →
    (libraries.foldl (placedAll registry) groups).members category =
      groups.members category ++
        (libraries.filter (category ∈ ·.category)).map Library.key := by
  induction libraries with
  | nil => simp
  | cons library libraries ih =>
    intro groups fresh
    have ⟨apart, distinct⟩ := List.nodup_cons.mp distinct
    have freshHere : library.key ∉ groups.members category := fresh library List.mem_cons_self
    have grown := members_placedAll known groups library
    rw [joined_of_not_mem freshHere] at grown
    have freshLater : ∀ other ∈ libraries,
        other.key ∉ (placedAll registry groups library).members category := by
      intro other member inGroup
      have old : other.key ∉ groups.members category :=
        fresh other (List.mem_cons_of_mem _ member)
      rw [grown] at inGroup
      split at inGroup
      · rcases List.mem_append.mp inGroup with inGroup | isNew
        · exact old inGroup
        · exact apart (List.mem_singleton.mp isNew ▸ List.mem_map_of_mem member)
      · exact old inGroup
    rw [List.foldl_cons, ih distinct _ freshLater, grown]
    by_cases listed : category ∈ library.category
    · rw [if_pos listed, List.filter_cons_of_pos (by simpa using listed), List.map_cons,
        List.append_assoc, List.singleton_append]
    · rw [if_neg listed, List.filter_cons_of_neg (by simpa using listed)]

end Classification

namespace Catalog

variable {catalog : Catalog Library}

/-- Libraries under their own keys are listed by name with keys of their own. -/
theorem KeyedBy.nodup_alphabetic (keyed : catalog.KeyedBy Library.key) :
    (catalog.alphabetic.map Library.key).Nodup := by
  have same := (byName_alphabetic catalog).same.map Library.key
  rw [keyed.map_values] at same
  exact same.nodup_iff.mpr catalog.nodup_keys

theorem KeyedBy.mem_alphabetic_iff (keyed : catalog.KeyedBy Library.key) (library : Library) :
    library ∈ catalog.alphabetic ↔ catalog.get? library.key = some library :=
  (byName_alphabetic catalog).same.mem_iff.trans (keyed.mem_values_iff library)

/-- The libraries by name, with those that are kept for each category. -/
def byCategory (catalog : Catalog Library) (registry : Registry) : Classification where
  categories := registry.categories.map fun category =>
    ⟨category, (catalog.alphabetic.filter (category.key ∈ ·.category)).map Library.key⟩
  alphabetic := catalog.alphabetic.map Library.key

/-- **Where libraries stand under their own keys, one pass keeps them for each category.** -/
theorem KeyedBy.result_classify (keyed : catalog.KeyedBy Library.key) (registry : Registry) :
    (classify registry catalog).result = .ok (catalog.byCategory registry) := by
  have groups := Traced.result_foldlM (Classification.result_placeAll registry)
    catalog.alphabetic []
  unfold classify
  rw [Traced.bind_eq, Traced.result_andThen, groups]
  refine congrArg (fun categories => Except.ok (Classification.mk categories _)) ?_
  unfold Classification.entries
  refine List.map_congr_left fun category member => congrArg (CategoryEntry.mk category) ?_
  have known := (registry.contains_iff category.key).mpr ⟨category, member, rfl⟩
  rw [Classification.members_foldl_placedAll known _ keyed.nodup_alphabetic]
  · rfl
  · exact fun library _ => List.not_mem_nil

end Catalog

/-! ### Scans -/

/-- The keys of the libraries of a catalog that are to be kept, in the order of their names. -/
structure Scan (catalog : Catalog Library) (keep : Library → Bool) (keys : List String) :
    Prop where
  inOrder : ∃ sorted, ByName (catalog.values.filter keep) sorted ∧ keys = sorted.map Library.key
  once : keys.Nodup
  complete : ∀ key, key ∈ keys ↔ ∃ library, catalog.get? key = some library ∧ keep library = true

/-- What is kept of the libraries by name is a scan. -/
theorem Catalog.KeyedBy.scan {catalog : Catalog Library} (keyed : catalog.KeyedBy Library.key)
    (keep : Library → Bool) : Scan catalog keep ((catalog.alphabetic.filter keep).map Library.key) where
  inOrder := ⟨_, (byName_alphabetic catalog).filter keep, rfl⟩
  once := (List.filter_sublist.map Library.key).nodup keyed.nodup_alphabetic
  complete key := by
    constructor
    · intro member
      obtain ⟨library, kept, rfl⟩ := List.mem_map.mp member
      have ⟨listed, keeps⟩ := List.mem_filter.mp kept
      exact ⟨library, (keyed.mem_alphabetic_iff library).mp listed, keeps⟩
    · rintro ⟨library, found, keeps⟩
      obtain rfl := keyed key library found
      have listed := (keyed.mem_alphabetic_iff library).mpr found
      exact List.mem_map_of_mem (List.mem_filter.mpr ⟨listed, keeps⟩)

/-- There is one scan. -/
theorem Scan.unique {catalog : Catalog Library} {keep : Library → Bool} {keys others : List String}
    (scan : Scan catalog keep keys) (another : Scan catalog keep others) : keys = others := by
  obtain ⟨sorted, order, rfl⟩ := scan.inOrder
  obtain ⟨again, other, rfl⟩ := another.inOrder
  rw [order.unique other]

/-- A classification that has an entry for each category of a registry, in its order, with the scan
for the libraries that list the category, and the scan for all libraries. -/
structure Classifies (registry : Registry) (catalog : Catalog Library)
    (classification : Classification) : Prop where
  entries : List.Forall₂ (fun category entry => entry.category = category ∧
      Scan catalog (category.key ∈ ·.category) entry.libraryKeys)
    registry.categories classification.categories
  all : Scan catalog (fun _ => true) classification.alphabetic

/-- There is one classification by scans. -/
theorem Classifies.unique {registry : Registry} {catalog : Catalog Library}
    {classification other : Classification} (classifies : Classifies registry catalog classification)
    (another : Classifies registry catalog other) : classification = other := by
  have sameEntries : classification.categories = other.categories := by
    refine Relator.RightUnique.forall₂ ?_ classifies.entries another.entries
    rintro category ⟨_, _⟩ ⟨_, _⟩ ⟨rfl, scan⟩ ⟨rfl, again⟩
    exact congrArg (CategoryEntry.mk _) (scan.unique again)
  have sameKeys : classification.alphabetic = other.alphabetic := classifies.all.unique another.all
  cases classification
  cases other
  simp only at sameEntries sameKeys
  rw [sameEntries, sameKeys]

theorem Catalog.KeyedBy.classifies {catalog : Catalog Library}
    (keyed : catalog.KeyedBy Library.key) (registry : Registry) :
    Classifies registry catalog (catalog.byCategory registry) where
  entries := List.forall₂_map_right_iff.mpr
    (List.forall₂_same.mpr fun category _ => ⟨rfl, keyed.scan (category.key ∈ ·.category)⟩)
  all := by
    have everything := keyed.scan fun _ => true
    rw [List.filter_true] at everything
    exact everything

/-- **One pass is a scan for each category.** Where every library stands under its own key, there
is one classification by scans, and this is what one pass gives. -/
theorem classify_eq_scan (registry : Registry) (catalog : Catalog Library)
    (keyed : catalog.KeyedBy Library.key) :
    ∃ classification, (classify registry catalog).result = .ok classification ∧
      ∀ other, Classifies registry catalog other ↔ other = classification := by
  refine ⟨_, keyed.result_classify registry, fun other => ⟨fun another => ?_, ?_⟩⟩
  · exact another.unique (keyed.classifies registry)
  · rintro rfl
    exact keyed.classifies registry

/-- Three libraries, two of one name but for its case. The first lists a category twice and one that
no registry has. -/
def threeLibraries : Catalog Library where
  entries := [
    ("any", Metadata.normalize
      { key := "any", name := some "B", category := ["Data", "Data", "Unheard-of"] }),
    ("bind", Metadata.normalize { key := "bind", name := some "a" }),
    ("core", Metadata.normalize { key := "core", name := some "A", category := ["Data"] })]
  ascending := by decide

/-- Two categories of one key. -/
def twoOfOneKey : Registry :=
  .ofPairs [("Data", "Data"), ("Data", "Again")]

/-- Libraries of one name stay in key order, and a category of the same key has the same scan. -/
theorem classify_eq_scan_threeLibraries :
    threeLibraries.KeyedBy Library.key ∧
      Classifies twoOfOneKey threeLibraries {
        categories := [
          ⟨⟨"Data", "Data"⟩, ["core", "any"]⟩, ⟨⟨"Data", "Again"⟩, ["core", "any"]⟩]
        alphabetic := ["bind", "core", "any"] } := by
  have keyed : threeLibraries.KeyedBy Library.key := Catalog.keyedBy_iff_entries.mpr (by decide)
  obtain ⟨classification, result, scans⟩ := classify_eq_scan twoOfOneKey threeLibraries keyed
  refine ⟨keyed, (scans _).mpr (Except.ok.inj (Eq.trans ?_ result))⟩
  cbv

end CatalogPages
