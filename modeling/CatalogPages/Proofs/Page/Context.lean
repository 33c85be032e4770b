/-
**No library is lost on the way to the pages.**

Pages look libraries up by the keys of a classification. Loading and correcting keep every library
under its own key, so that each key finds the very library that it was taken from.

* `keyedBy_of_load`, `KeyedBy.corrected`: metadata and libraries stand under their own keys;
* `KeyedBy.forall₂_get?`: keys that are taken from libraries find these libraries again;
* `Keeps`: the variables of pages have every library of a classification, in its order;
* `load_keeps_libraries`: they do whatever release has been loaded.
-/

import CatalogPages.PageContext
import CatalogPages.Proofs.Catalog.Classification
import CatalogPages.Proofs.Catalog.Correction
import CatalogPages.Proofs.Loading.Catalog
import Mathlib.Data.Finset.Card

namespace CatalogPages

/-! ### Keys of their own -/

/-- Records that are added under their own keys stand under them. -/
theorem Catalog.keyedBy_addAll (records : List Metadata) :
    (Catalog.empty.addAll records).KeyedBy Metadata.key := by
  intro key record found
  rcases (Catalog.get?_addAll key record records _).mp found with isLast | ⟨there, -⟩
  · obtain ⟨_, _, -, named, -⟩ := isLast
    exact named
  · cases there

/-- **Metadata is loaded under its own keys.** -/
theorem Settings.keyedBy_of_load {settings : Settings} {tree : FileTree} {root : String}
    {metadata : Catalog Metadata} (loaded : (settings.load tree root).result = .ok metadata) :
    metadata.KeyedBy Metadata.key := by
  obtain ⟨directories, found, -, -, rfl⟩ := Settings.load_ok_iff.mp loaded
  exact Catalog.keyedBy_addAll found.flatten

namespace Catalog

/-- **Corrections leave every library under its own key.** -/
theorem KeyedBy.corrected {metadata : Catalog Metadata} (keyed : metadata.KeyedBy Metadata.key)
    (corrections : List Correction) : (metadata.corrected corrections).KeyedBy Library.key := by
  intro key library found
  rw [get?_corrected] at found
  obtain ⟨record, there, rfl⟩ := Option.map_eq_some_iff.mp found
  exact keyed key record there

variable {catalog : Catalog Library}

/-- **Keys that are taken from libraries of a catalog find these libraries.** -/
theorem KeyedBy.forall₂_get? (keyed : catalog.KeyedBy Library.key) (libraries : List Library)
    (members : ∀ library ∈ libraries, library ∈ catalog.alphabetic) :
    List.Forall₂ (fun key library => catalog.get? key = some library)
      (libraries.map Library.key) libraries := by
  refine List.forall₂_map_left_iff.mpr (List.forall₂_same.mpr fun library member => ?_)
  exact (keyed.mem_alphabetic_iff library).mp (members library member)

/-- Keys that all find something lose nothing when they are looked up. -/
theorem filterMap_get?_of_forall₂ {keys : List String} {libraries : List Library}
    (finds : List.Forall₂ (fun key library => catalog.get? key = some library) keys libraries) :
    keys.filterMap catalog.get? = libraries := by
  induction finds with
  | nil => rfl
  | cons here _ ih => rw [List.filterMap_cons_some here, ih]

end Catalog

namespace PageContext

/-! ### Libraries that are new -/

theorem result_reportUnknown (libraries : List Library) (keys : List String) :
    (reportUnknown libraries keys).result = .ok () := by
  unfold reportUnknown
  induction keys with
  | nil => rfl
  | cons key keys ih =>
    rw [List.forM_eq_forM] at ih ⊢
    rw [List.forM_cons, Traced.bind_eq, Traced.result_andThen, ih]
    split
    · rfl
    · rfl

theorem result_withUnreleased (context : PageContext) (keys : List String) :
    (context.withUnreleased keys).result = .ok { context with
      unreleased := context.libraries.filter fun library => keys.contains library.key } := by
  unfold withUnreleased
  rw [Traced.bind_eq, Traced.result_andThen, result_reportUnknown]
  rfl

/-- The libraries of some keys are as many as those keys that the catalog has. -/
theorem length_filter_alphabetic {catalog : Catalog Library} (keyed : catalog.KeyedBy Library.key)
    (keys : List String) :
    (catalog.alphabetic.filter fun library => keys.contains library.key).length =
      (keys.toFinset.filter fun key => catalog.contains key = true).card := by
  have scan := keyed.scan fun library => keys.contains library.key
  have sameKeys : ((catalog.alphabetic.filter fun library =>
      keys.contains library.key).map Library.key).toFinset =
      keys.toFinset.filter fun key => catalog.contains key = true := by
    ext key
    rw [List.mem_toFinset, scan.complete, Finset.mem_filter, List.mem_toFinset]
    unfold Catalog.contains
    rw [Option.isSome_iff_exists]
    constructor
    · rintro ⟨library, found, listed⟩
      obtain rfl := keyed key library found
      exact ⟨List.contains_iff_mem.mp listed, library, found⟩
    · rintro ⟨listed, library, found⟩
      obtain rfl := keyed key library found
      exact ⟨library, found, List.contains_iff_mem.mpr listed⟩
  rw [← sameKeys, List.toFinset_card_of_nodup scan.once, List.length_map]

/-! ### All libraries -/

/-- Variables that have every library of a classified catalog, and of those the ones that are
new. -/
structure Keeps (catalog : Catalog Library) (classification : Classification) (keys : List String)
    (context : PageContext) : Prop where
  byName : context.libraries = catalog.alphabetic
  all : List.Forall₂ (fun key library => catalog.get? key = some library)
    classification.alphabetic context.libraries
  categories : List.Forall₂ (fun entry view => view.category = entry.category ∧
      List.Forall₂ (fun key library => catalog.get? key = some library) entry.libraryKeys
        view.libraries)
    classification.categories context.categories
  unreleased : context.unreleased = context.libraries.filter (·.key ∈ keys)
  count : context.unreleasedCount =
    (keys.toFinset.filter fun key => catalog.contains key = true).card

variable {catalog : Catalog Library}

/-- The libraries of a classification are those that it has been made of. -/
theorem libraries_ofCatalog (keyed : catalog.KeyedBy Library.key) (registry : Registry)
    (version : ReleaseVersion) (globals : List (String × Json)) :
    (ofCatalog catalog (catalog.byCategory registry) version globals).libraries =
      catalog.alphabetic :=
  Catalog.filterMap_get?_of_forall₂ (keyed.forall₂_get? _ fun _ member => member)

/-- **Each category has as many libraries as its entry has keys, in the same order.** -/
theorem forall₂_categories_ofCatalog (keyed : catalog.KeyedBy Library.key) (registry : Registry)
    (version : ReleaseVersion) (globals : List (String × Json)) :
    List.Forall₂ (fun entry view => view.category = entry.category ∧
        List.Forall₂ (fun key library => catalog.get? key = some library) entry.libraryKeys
          view.libraries)
      (catalog.byCategory registry).categories
      (ofCatalog catalog (catalog.byCategory registry) version globals).categories := by
  refine List.forall₂_map_right_iff.mpr (List.forall₂_same.mpr fun entry member => ⟨rfl, ?_⟩)
  obtain ⟨category, -, rfl⟩ := List.mem_map.mp member
  have finds := keyed.forall₂_get? (catalog.alphabetic.filter (category.key ∈ ·.category))
    fun _ kept => (List.mem_filter.mp kept).1
  show List.Forall₂ _ _ (List.filterMap _ _)
  rw [Catalog.filterMap_get?_of_forall₂ finds]
  exact finds

/-- **No library is lost.** A release that has been loaded can be corrected, and every library then
stands under its own key; whatever the registry, the version, the further variables, the kind of
the release and the keys of new libraries, the variables of pages have every library of the
classification, in its order. -/
theorem load_keeps_libraries {settings : Settings} {tree : FileTree} {root : String}
    {metadata : Catalog Metadata} (loaded : (settings.load tree root).result = .ok metadata)
    (corrections : List Correction) :
    ∃ catalog, (metadata.normalize corrections).result = .ok catalog ∧
      catalog.KeyedBy Library.key ∧
      ∀ (registry : Registry) (version : ReleaseVersion) (globals : List (String × Json))
        (isDevelop : Bool) (keys : List String), ∃ classification context,
          (classify registry catalog).result = .ok classification ∧
          ({ ofCatalog catalog classification version globals with isDevelop }.withUnreleased
            keys).result = .ok context ∧
          Keeps catalog classification keys context := by
  have keyed := (Settings.keyedBy_of_load loaded).corrected corrections
  refine ⟨_, metadata.result_normalize corrections, keyed, ?_⟩
  intro registry version globals isDevelop keys
  refine ⟨_, _, keyed.result_classify registry, result_withUnreleased _ keys, ?_⟩
  have libraries := libraries_ofCatalog keyed registry version globals
  refine ⟨libraries, ?_, forall₂_categories_ofCatalog keyed registry version globals, ?_, ?_⟩
  · show List.Forall₂ _ _ (ofCatalog _ _ version globals).libraries
    rw [libraries]
    exact keyed.forall₂_get? _ fun _ member => member
  · exact List.filter_congr fun library _ => List.contains_eq_mem _ _
  · show ((ofCatalog _ _ version globals).libraries.filter _).length = _
    rw [libraries]
    exact length_filter_alphabetic keyed keys

/-- A release with one metadata file. -/
def oneDirectory (bytes : ByteArray) : FileTree where
  nodes := [(["l"], .directory), (["l", "x"], .directory), (["l", "x", "m"], .file bytes)]

theorem openNode_oneDirectory (bytes : ByteArray) :
    (oneDirectory bytes).openNode "l/x/m" = .ok (.file bytes) :=
  FileTree.openNode_of_walks rfl rfl
    (.into (by decide) rfl (.into (by decide) rfl (.last (by decide) rfl rfl)))

/-- Settings in which every path is short. -/
def shortNames : Settings where
  libsDir := "l"
  metadataFile := "m"
  pathPrefix := "l/"
  include_ := []

/-- A release of one directory is loaded to what its metadata file encodes. -/
theorem load_oneDirectory {bytes : ByteArray} {records : List Metadata}
    (encodes : Encodes bytes records) :
    (shortNames.load (oneDirectory bytes) "").result =
      .ok (Catalog.empty.addAll
        (records.map fun metadata => { metadata with libraryPath := "x" })) := by
  have candidates : (shortNames.candidates (oneDirectory bytes) "").result = .ok ["l/x"] := by
    cbv
  have opens : (oneDirectory bytes).openNode (shortNames.metadataPath "" "l/x") =
      .ok (.file bytes) :=
    openNode_oneDirectory bytes
  have adds : Settings.Adds shortNames (oneDirectory bytes) "" "l/x"
      (records.map fun metadata => { metadata with libraryPath := "x" }) :=
    .records opens encodes (.front "x")
  refine Settings.load_ok_iff.mpr ⟨_, _, candidates, .cons adds .nil, ?_⟩
  rw [List.flatten_singleton]

/-- Two libraries, the second of which comes first by key. -/
def twoRecords : String :=
  "[\x7b\"key\":\"b\"\x7d,\x7b\"key\":\"a\"\x7d]"

theorem encodes_twoRecords : Encodes twoRecords.toUTF8 [{ key := "b" }, { key := "a" }] := by
  have parses : Json.parse twoRecords =
      .ok (.array [.object [("key", .string "b")], .object [("key", .string "a")]]) := by
    cbv
  refine .intro rfl parses (.array _) (.cons ?_ (.cons ?_ .nil))
  · cbv
  · cbv

/-- A correction changes the order of the libraries, and of three keys one counts. -/
theorem load_keeps_libraries_twoRecords :
    ∃ metadata catalog classification context,
      (shortNames.load (oneDirectory twoRecords.toUTF8) "").result = .ok metadata ∧
      (metadata.normalize [{ key := "a", name := some "c" }]).result = .ok catalog ∧
      (classify .standard catalog).result = .ok classification ∧
      ({ ofCatalog catalog classification (.ofText "" ['1']) [] with
          isDevelop := true }.withUnreleased ["b", "b", "z"]).result = .ok context ∧
      Keeps catalog classification ["b", "b", "z"] context ∧
      context.libraries.map Library.key = ["b", "a"] ∧ context.unreleasedCount = 1 := by
  have loaded := load_oneDirectory encodes_twoRecords
  obtain ⟨catalog, normalized, -, keeps⟩ :=
    load_keeps_libraries loaded [{ key := "a", name := some "c" }]
  obtain ⟨classification, context, classified, marked, kept⟩ :=
    keeps .standard (.ofText "" ['1']) [] true ["b", "b", "z"]
  have corrected := Except.ok.inj ((Catalog.result_normalize _ _).symm.trans normalized)
  refine ⟨_, catalog, classification, context, loaded, normalized, classified, marked, kept,
    ?_, ?_⟩
  · rw [kept.byName, ← corrected]
    cbv
  · rw [kept.count, ← corrected]
    decide +kernel

end PageContext

end CatalogPages
