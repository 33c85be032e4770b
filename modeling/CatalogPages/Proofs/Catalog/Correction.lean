/-
**What corrections make of a catalog.**

Corrections are applied one after another to a catalog of libraries. For each library and each field
the last correction that gives the field decides, and all else is as the metadata has it.

* `lastGiven`: what the last correction of a key gives to a field;
* `Metadata.corrected`: the library that metadata describes, field by field;
* `result_normalize`: this is what every entry of the catalog comes to;
* `normalize_eq_corrected`: with it, corrections that are apart can change places, and those of keys
  that the catalog does not have can be left out.
-/

import CatalogPages.Correction
import CatalogPages.Proofs.Catalog.Order

namespace CatalogPages

namespace Correction

/-! ### The last correction of a field -/

variable {β : Type}

/-- What a correction gives to a field of the library of a key. -/
def given (field : Correction → Option β) (key : String) (correction : Correction) : Option β :=
  if correction.key = key then field correction else none

/-- What the last of some corrections that gives a field of the library of a key gives to it. -/
def lastGiven (field : Correction → Option β) (key : String) (corrections : List Correction) :
    Option β :=
  corrections.reverse.findSome? (given field key)

theorem lastGiven_append (field : Correction → Option β) (key : String)
    (first second : List Correction) :
    lastGiven field key (first ++ second) =
      (lastGiven field key second).or (lastGiven field key first) := by
  unfold lastGiven
  rw [List.reverse_append, List.findSome?_append]

theorem lastGiven_cons (field : Correction → Option β) (key : String) (correction : Correction)
    (corrections : List Correction) :
    lastGiven field key (correction :: corrections) =
      (lastGiven field key corrections).or (given field key correction) := by
  have alone : lastGiven field key [correction] = given field key correction := by
    unfold lastGiven
    rw [List.reverse_singleton, List.findSome?_singleton]
  rw [← alone, ← lastGiven_append, List.singleton_append]

/-- Corrections of other keys do not count. -/
theorem lastGiven_filter (field : Correction → Option β) {key : String} {keep : Correction → Bool}
    (keeps : ∀ correction : Correction, correction.key = key → keep correction = true)
    (corrections : List Correction) :
    lastGiven field key (corrections.filter keep) = lastGiven field key corrections := by
  induction corrections with
  | nil => rfl
  | cons correction corrections ih =>
    by_cases kept : keep correction = true
    · rw [List.filter_cons_of_pos kept, lastGiven_cons, lastGiven_cons, ih]
    · have elsewhere : correction.key ≠ key := fun same => kept (keeps correction same)
      have nothing : given field key correction = none := if_neg elsewhere
      rw [List.filter_cons_of_neg kept, lastGiven_cons, nothing, Option.or_none, ih]

/-! ### One library -/

/-- The library of a key after a correction, which may be of another key. -/
def applyAt (key : String) (library : Library) (correction : Correction) : Library :=
  if key = correction.key then correction.apply library else library

/-- A library with its fields as the last corrections of its key have them. -/
def revise (key : String) (corrections : List Correction) (library : Library) : Library :=
  let description := (lastGiven description key corrections).getD library.description
  { library with
    name := (lastGiven name key corrections).getD library.name
    category := (lastGiven category key corrections).getD library.category
    documentationLink := (lastGiven link key corrections).getD library.documentationLink
    description
    cleanDescription := CatalogPages.cleanDescription description }

/-- A library whose description is clean keeps its description and the clean one together. -/
theorem applyAt_clean (key : String) (correction : Correction) {library : Library}
    (clean : library.cleanDescription = CatalogPages.cleanDescription library.description) :
    (applyAt key library correction).cleanDescription =
      CatalogPages.cleanDescription (applyAt key library correction).description := by
  unfold applyAt
  split
  · unfold apply
    cases correction.description with
    | none => exact clean
    | some description => rfl
  · exact clean

/-- A first correction counts for the fields that no later one gives. -/
theorem revise_cons (key : String) (correction : Correction) (corrections : List Correction)
    (library : Library) :
    revise key (correction :: corrections) library =
      revise key corrections (applyAt key library correction) := by
  have getD_or : ∀ {γ : Type} (later first : Option γ) (old : γ),
      (later.or first).getD old = later.getD (first.getD old) := by
    intro γ later first old
    cases later <;> rfl
  unfold revise applyAt
  simp only [lastGiven_cons, getD_or]
  by_cases here : correction.key = key
  · simp only [given, if_pos here, if_pos here.symm]
    rfl
  · simp only [given, if_neg here, if_neg (Ne.symm here), Option.getD_none]

/-- **Of the corrections of a library the last that gives a field decides.** -/
theorem foldl_applyAt (key : String) (corrections : List Correction) : ∀ library : Library,
    library.cleanDescription = CatalogPages.cleanDescription library.description →
    corrections.foldl (applyAt key) library = revise key corrections library := by
  induction corrections with
  | nil =>
    intro library clean
    show library = { library with
      cleanDescription := CatalogPages.cleanDescription library.description }
    rw [← clean]
  | cons correction corrections ih =>
    intro library clean
    rw [List.foldl_cons, ih _ (applyAt_clean key correction clean), revise_cons]

/-! ### Order -/

/-- Two corrections of different keys, or of which neither gives a field that the other gives. -/
def Apart (first second : Correction) : Prop :=
  first.key ≠ second.key ∨
    (first.name = none ∨ second.name = none) ∧
    (first.category = none ∨ second.category = none) ∧
    (first.link = none ∨ second.link = none) ∧
    (first.description = none ∨ second.description = none)

/-- Corrections in another order, for which only neighbours that are apart have changed places. -/
inductive Reordered : List Correction → List Correction → Prop
  | refl (corrections : List Correction) : Reordered corrections corrections
  | swap (before after : List Correction) {first second : Correction}
      (apart : Apart first second) :
      Reordered (before ++ first :: second :: after) (before ++ second :: first :: after)
  | trans {first second third : List Correction} (one : Reordered first second)
      (another : Reordered second third) : Reordered first third

/-- Two corrections that do not both give a field can change places for it. -/
theorem lastGiven_swap (field : Correction → Option β) {first second : Correction}
    (apart : first.key ≠ second.key ∨ field first = none ∨ field second = none) (key : String)
    (before after : List Correction) :
    lastGiven field key (before ++ first :: second :: after) =
      lastGiven field key (before ++ second :: first :: after) := by
  have oneGives : given field key first = none ∨ given field key second = none := by
    unfold given
    by_cases isFirst : first.key = key
    · by_cases isSecond : second.key = key
      · rw [if_pos isFirst, if_pos isSecond]
        exact apart.resolve_left fun differ => differ (isFirst.trans isSecond.symm)
      · exact .inr (if_neg isSecond)
    · exact .inl (if_neg isFirst)
  simp only [lastGiven_append, lastGiven_cons, Option.or_assoc]
  rcases oneGives with nothing | nothing
  · rw [nothing, Option.none_or, Option.none_or]
  · rw [nothing, Option.none_or, Option.none_or]

/-- Corrections in another order come to the same. -/
theorem Reordered.revise_eq {first second : List Correction} (reordered : Reordered first second)
    (key : String) (library : Library) : revise key first library = revise key second library := by
  induction reordered with
  | refl => rfl
  | swap before after apart =>
    unfold revise
    rw [lastGiven_swap name (apart.imp_right And.left),
      lastGiven_swap category (apart.imp_right fun fields => fields.2.1),
      lastGiven_swap link (apart.imp_right fun fields => fields.2.2.1),
      lastGiven_swap description (apart.imp_right fun fields => fields.2.2.2)]
  | trans _ _ one another => exact one.trans another

end Correction

open Correction

/-- The library that metadata describes after the corrections of a key: each field is as the last
correction that gives it has it, or else as the metadata has it. -/
def Metadata.corrected (metadata : Metadata) (key : String) (corrections : List Correction) :
    Library :=
  let description := (lastGiven Correction.description key corrections).getD metadata.description
  { key := metadata.key
    name := (lastGiven Correction.name key corrections).getD (metadata.name.getD metadata.key)
    category := (lastGiven Correction.category key corrections).getD metadata.category
    authors := metadata.authors
    description
    documentation := metadata.documentation
    libraryPath := metadata.libraryPath
    documentationLink := (lastGiven link key corrections).getD
      (documentationLink metadata.libraryPath metadata.documentation)
    cleanDescription := cleanDescription description
    authorsProse := metadata.authors.prose }

theorem Metadata.foldl_applyAt (metadata : Metadata) (key : String)
    (corrections : List Correction) :
    corrections.foldl (applyAt key) metadata.normalize = metadata.corrected key corrections :=
  Correction.foldl_applyAt key corrections metadata.normalize rfl

namespace Catalog

/-! ### The whole catalog -/

/-- A catalog without a key is not changed under it. -/
theorem modify_of_absent {α : Type} {catalog : Catalog α} {key : String}
    (absent : catalog.get? key = none) (f : α → α) : catalog.modify key f = catalog := by
  refine eq_of_entries ((List.map_congr_left fun entry member => ?_).trans (List.map_id _))
  have differ : entry.1 ≠ key := by
    intro same
    have found := (catalog.get?_eq_some_iff entry.1 entry.2).mpr member
    rw [same, absent] at found
    cases found
  exact congrArg (Prod.mk entry.1) (if_neg differ)

/-- A correction changes the library of its key, if there is one. -/
theorem result_correct (catalog : Catalog Library) (correction : Correction) :
    (catalog.correct correction).result = .ok (catalog.modify correction.key correction.apply) := by
  unfold correct contains
  cases found : catalog.get? correction.key with
  | some library => rfl
  | none =>
    rw [modify_of_absent found]
    rfl

/-- Corrections act on each library on its own. -/
theorem entries_foldl_modify (corrections : List Correction) : ∀ catalog : Catalog Library,
    (corrections.foldl (fun catalog correction =>
      catalog.modify correction.key correction.apply) catalog).entries =
      catalog.entries.map fun entry => (entry.1, corrections.foldl (applyAt entry.1) entry.2) := by
  induction corrections with
  | nil => exact fun catalog => (List.map_id _).symm
  | cons correction corrections ih =>
    intro catalog
    rw [List.foldl_cons, ih]
    show (catalog.entries.map _).map _ = _
    rw [List.map_map]
    rfl

/-- The libraries that metadata describes after corrections, under the same keys. -/
def corrected (metadata : Catalog Metadata) (corrections : List Correction) : Catalog Library where
  entries := metadata.entries.map fun entry => (entry.1, entry.2.corrected entry.1 corrections)
  ascending := by
    rw [Keyed.ascending_iff_keys, List.map_map]
    exact (Keyed.ascending_iff_keys _).mp metadata.ascending

/-- **Every entry comes to what its metadata and the corrections of its key say.** -/
theorem result_normalize (metadata : Catalog Metadata) (corrections : List Correction) :
    (metadata.normalize corrections).result = .ok (metadata.corrected corrections) := by
  unfold normalize
  rw [Traced.result_foldlM result_correct]
  refine congrArg Except.ok (eq_of_entries ?_)
  rw [entries_foldl_modify]
  show (metadata.entries.map _).map _ = metadata.entries.map _
  rw [List.map_map]
  exact List.map_congr_left fun entry _ =>
    congrArg (Prod.mk entry.1) (entry.2.foldl_applyAt entry.1 corrections)

theorem keys_corrected (metadata : Catalog Metadata) (corrections : List Correction) :
    (metadata.corrected corrections).keys = metadata.keys := by
  unfold keys corrected
  rw [List.map_map]
  rfl

theorem get?_corrected (metadata : Catalog Metadata) (corrections : List Correction)
    (key : String) :
    (metadata.corrected corrections).get? key =
      (metadata.get? key).map fun record => record.corrected key corrections := by
  refine Option.ext fun library => ?_
  rw [get?_eq_some_iff, Option.map_eq_some_iff]
  constructor
  · intro member
    obtain ⟨entry, listed, same⟩ := List.mem_map.mp member
    obtain ⟨rfl, rfl⟩ := Prod.mk.inj same
    exact ⟨entry.2, (metadata.get?_eq_some_iff ..).mpr listed, rfl⟩
  · rintro ⟨record, found, rfl⟩
    exact List.mem_map.mpr ⟨_, (metadata.get?_eq_some_iff ..).mp found, rfl⟩

/-- Corrections that come to the same for every entry come to the same catalog. -/
theorem corrected_congr {metadata : Catalog Metadata} {corrections others : List Correction}
    (same : ∀ key record, metadata.get? key = some record →
      record.corrected key corrections = record.corrected key others) :
    metadata.corrected corrections = metadata.corrected others := by
  refine eq_of_entries (List.map_congr_left fun entry member => ?_)
  have found := (metadata.get?_eq_some_iff entry.1 entry.2).mpr member
  rw [same _ _ found]

/-- **Of the corrections of a library the last that gives a field decides, and nothing else
changes.** The catalog has the same keys, and under each what its metadata and the corrections of the
key say. It is the same when corrections that are apart change places, and without those of keys
that there are not. -/
theorem normalize_eq_corrected (metadata : Catalog Metadata) (corrections : List Correction) :
    ∃ catalog, (metadata.normalize corrections).result = .ok catalog ∧
      catalog.keys = metadata.keys ∧
      (∀ key, catalog.get? key =
        (metadata.get? key).map fun record => record.corrected key corrections) ∧
      (∀ others, Reordered corrections others →
        (metadata.normalize others).result = .ok catalog) ∧
      (metadata.normalize (corrections.filter (metadata.contains ·.key))).result = .ok catalog := by
  refine ⟨_, metadata.result_normalize corrections, metadata.keys_corrected corrections,
    metadata.get?_corrected corrections, fun others reordered => ?_, ?_⟩
  · rw [result_normalize]
    refine congrArg Except.ok (corrected_congr fun key record _ => ?_)
    exact (reordered.revise_eq key record.normalize).symm
  · rw [result_normalize]
    refine congrArg Except.ok (corrected_congr fun key record found => ?_)
    have keeps : ∀ correction : Correction, correction.key = key →
        metadata.contains correction.key = true := by
      intro correction same
      unfold contains
      rw [same, found, Option.isSome_some]
    unfold Metadata.corrected
    simp only [lastGiven_filter _ keeps]

end Catalog

end CatalogPages
