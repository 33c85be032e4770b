/-
**Libraries that are written and read again.**

A document of a library says all that its metadata says, and more. Read as metadata it gives that
back, whatever the order of its fields, but for the library's path, which no reader of metadata asks
for. When the path has been put back, the same corrections come to the same libraries.

* `Library.stands`: a library's document stands for its metadata without the path;
* `Library.readDocument`, `Library.readText`, `Library.readTextAsDocument`: the ways from a library
  to metadata;
* `Metadata.corrected_again`: corrections of what corrections have come to change nothing;
* `Catalog.normalize_reread`: a catalog that is written, read and normalized again is as it was.
-/

import CatalogPages.Proofs.Catalog.Correction
import CatalogPages.Proofs.Json.Decoding

namespace CatalogPages

open Json Correction

/-! ### One library -/

theorem Authors.reads_toJson {depth : Nat} (deep : 1 < depth) (authors : Authors) :
    Reads (value depth) authors.toJson.print authors.toJson := by
  obtain ⟨fewer, rfl⟩ := Nat.exists_eq_add_of_le' deep
  cases authors with
  | single text => exact reads_value_text (fewer + 1) text
  | many names => exact reads_value_list fewer names

/-- A text or a list of texts stands for the authors that it was written for. -/
theorem Authors.stands {depth : Nat} (deep : 1 < depth) (authors : Authors) :
    Stands depth Authors.schema authors.toJson authors := by
  have whole := authors.reads_toJson deep
  cases authors with
  | single text =>
    have found : (Schema.either "Authors" .text (.list .text)).ofJson (.string text) =
        .ok (.inl text) := rfl
    exact (Stands.either whole found).converted (Sum.elim single many)
  | many names =>
    have found : (Schema.either "Authors" .text (.list .text)).ofJson (strings names) =
        .ok (.inr names) := by
      rw [Schema.ofJson, Stands.ofJson_strings]
      rfl
    exact (Stands.either whole found).converted (Sum.elim single many)

namespace Library

variable (library : Library)

/-- A library as text, with its fields in the order in which pages show them. -/
def toText : String :=
  (Json.object library.fields).toText

/-- What a library's document says to a reader of metadata. -/
def pathless : Metadata :=
  { library.toMetadata with libraryPath := "" }

theorem nodup_fieldNames : (library.fields.map Prod.fst).Nodup := by
  simp [fields]

/-- **A library's document stands for its metadata without the path**, whatever the order of its
fields. -/
theorem stands {members : List (String × Json)} (same : members.Perm library.fields) :
    Stands depthLimit Metadata.schema (.object members) library.pathless := by
  have listed (i : Nat) {member : String × Json} (there : library.fields[i]? = some member) :
      member ∈ members :=
    same.mem_iff.mpr (List.mem_of_getElem? there)
  have distinct := (same.map Prod.fst).nodup_iff.mpr library.nodup_fieldNames
  refine stands_record (by decide) (.listed (listed 0 rfl) (.text _ _) <|
      .listed (listed 1 rfl) (.optional _ (some library.name)) <|
      .listed (listed 2 rfl) (.list (by decide) _) <|
      .listed (listed 3 rfl) (Authors.stands (by decide) _) <|
      .listed (listed 4 rfl) (.text _ _) <|
      .listed (listed 5 rfl) (.optional _ _) .done) ?names distinct ?passable rfl
  case names => decide
  case passable =>
    intro member among unasked
    have listed := same.mem_iff.mp among
    simp only [fields, List.mem_cons, List.not_mem_nil, or_false] at listed
    rcases listed with rfl | rfl | rfl | rfl | rfl | rfl | rfl | rfl | rfl | rfl
    -- Six of the fields are asked for, and the other four are texts.
    iterate 6 exact absurd (by simp [Fields.names]) unasked
    iterate 4 exact reads_skipValue _

/-- **A library's text is read as its document.** -/
theorem parse_toText : Json.parse library.toText = .ok library.toJson := by
  refine document_of_reads (reads_value_object (by decide) ?_)
  simp only [fields, List.forall_mem_cons]
  exact ⟨reads_value_text _ _, reads_value_text _ _, reads_value_list _ _,
    library.authors.reads_toJson (by decide), reads_value_text _ _, reads_value_optional _ _,
    reads_value_text _ _, reads_value_text _ _, reads_value_text _ _, reads_value_text _ _,
    fun _ member => (nomatch member)⟩

example : (Metadata.normalize { key := "any", description := "Say \"any\"." }).toText =
    "\x7b\"key\":\"any\",\"name\":\"any\",\"category\":[],\"authors\":[]," ++
    "\"description\":\"Say \\\"any\\\".\",\"documentation\":null,\"library_path\":\"\"," ++
    "\"documentation_link\":\"/index.html\",\"description_clean\":\"Say \\\"any\\\"\"," ++
    "\"authors_formatted\":\"\"\x7d" := by
  cbv

/-! ### Ways to read -/

/-- A library's document, read as metadata. -/
def readDocument : Except String Metadata :=
  (Metadata.schema.ofJson library.toJson).mapError Mismatch.message

/-- A library's text, read as metadata at once. -/
def readText : Except String Metadata :=
  Metadata.schema.parse library.toText

/-- A library's text, read as a document first, as metadata files are. -/
def readTextAsDocument : Except String Metadata := do
  (Metadata.schema.ofJson (← Json.parse library.toText)).mapError Mismatch.message

theorem readDocument_eq : library.readDocument = .ok library.pathless := by
  have inKeyOrder := library.stands (Keyed.ofList_perm library.nodup_fieldNames)
  exact congrArg (Except.mapError Mismatch.message) inKeyOrder.decodes

theorem readText_eq : library.readText = .ok library.pathless :=
  (library.stands (.refl _)).parse

theorem readTextAsDocument_eq : library.readTextAsDocument = .ok library.pathless := by
  unfold readTextAsDocument
  exact bind_ok_iff.mpr ⟨_, library.parse_toText, library.readDocument_eq⟩

end Library

/-! ### Corrections again -/

/-- **Corrections of what corrections have come to change nothing.** The link to the documentation
is no field of metadata: it is derived again, and corrected again. -/
theorem Metadata.corrected_again (metadata : Metadata) (key : String)
    (corrections : List Correction) :
    (metadata.corrected key corrections).toMetadata.corrected key corrections =
      metadata.corrected key corrections := by
  have again : ∀ {γ : Type} (given : Option γ) (old : γ),
      given.getD (given.getD old) = given.getD old := by
    intro γ given old
    cases given <;> rfl
  unfold corrected Library.toMetadata
  simp only [again, Option.getD_some]

namespace Catalog

/-! ### The whole catalog -/

/-- The metadata of a catalog whose libraries are read again, each with its path put back. -/
def reread (read : Library → Except String Metadata) (catalog : Catalog Library) :
    Except String (Catalog Metadata) := do
  let entries ← catalog.entries.mapM fun (key, library) => do
    let metadata ← read library
    return (key, { metadata with libraryPath := library.libraryPath })
  return ofList entries

/-- A way that gives every library's metadata without the path gives it with the path here. -/
theorem reread_eq {read : Library → Except String Metadata}
    (reads : ∀ library, read library = .ok library.pathless) (catalog : Catalog Library) :
    catalog.reread read = .ok (catalog.map Library.toMetadata) := by
  have entries : catalog.entries.mapM (fun (key, library) => do
      let metadata ← read library
      return (key, { metadata with libraryPath := library.libraryPath })) =
      .ok (catalog.map Library.toMetadata).entries := by
    rw [mapM_ok_iff_forall₂]
    show List.Forall₂ _ _ (catalog.entries.map _)
    rw [List.forall₂_map_right_iff, List.forall₂_same]
    intro entry _
    dsimp only
    rw [reads entry.2]
    rfl
  rw [reread, entries]
  exact congrArg Except.ok (ofList_entries _)

/-- Corrected libraries are corrected to themselves. -/
theorem corrected_again (metadata : Catalog Metadata) (corrections : List Correction) :
    ((metadata.corrected corrections).map Library.toMetadata).corrected corrections =
      metadata.corrected corrections := by
  refine eq_of_entries ?_
  show ((metadata.entries.map _).map _).map _ = metadata.entries.map _
  rw [List.map_map, List.map_map]
  exact List.map_congr_left fun entry _ =>
    congrArg (Prod.mk entry.1) (entry.2.corrected_again entry.1 corrections)

/-- **Libraries that are written, read and normalized again are as they were.** Every way to read
them succeeds and gives the same metadata, and the same corrections of it come to the same
libraries. -/
theorem normalize_reread (metadata : Catalog Metadata) (corrections : List Correction) :
    ∃ catalog again, (metadata.normalize corrections).result = .ok catalog ∧
      catalog.reread Library.readDocument = .ok again ∧
      catalog.reread Library.readText = .ok again ∧
      catalog.reread Library.readTextAsDocument = .ok again ∧
      (again.normalize corrections).result = .ok catalog := by
  refine ⟨_, _, metadata.result_normalize corrections, reread_eq Library.readDocument_eq _,
    reread_eq Library.readText_eq _, reread_eq Library.readTextAsDocument_eq _, ?_⟩
  rw [result_normalize, corrected_again]

end Catalog

end CatalogPages
