/-
**The entries of a metadata file.**

An entry is metadata as an object, or as the list of the values of an object's fields. What it says
is taken field by field: each field has what stands for it, or else its absent value. A file is read
when all of its entries are metadata, and then gives one record for each of them, in order.

* `Describes`: what an entry says about a library;
* `Metadata.ofJson_iff`: this is what is decoded;
* `Describes.object_or_list`: objects with a key, and lists that begin with one;
* `Describes.insert_iff`: members of an object that no field asks for;
* `FileTree.Yields`: what comes of reading the file of a document;
* `FileTree.readRecords_describes`: every file gives this.
-/

import CatalogPages.Proofs.Catalog.Encoding
import CatalogPages.Proofs.Loading.Records
import CatalogPages.Proofs.Page.Context
import CatalogPages.Proofs.Schema.Records
import CatalogPages.Proofs.Schema.Texts

namespace CatalogPages

/-! ### One entry -/

/-- An entry that is metadata, and the metadata. The path of the library is not in the file. -/
@[mk_iff]
structure Describes (entry : Json) (metadata : Metadata) : Prop where
  fits : entry.MayFill 6
  key : entry.Supplies "key" 0 (· = .string ·) none metadata.key
  name : entry.Supplies "name" 1 (· = .optional ·) (some none) metadata.name
  category : entry.Supplies "category" 2 (· = .strings ·) (some []) metadata.category
  authors : entry.Supplies "authors" 3 (· = ·.toJson) (some .nobody) metadata.authors
  description : entry.Supplies "description" 4 (· = .string ·) (some "") metadata.description
  documentation :
    entry.Supplies "documentation" 5 (· = .optional ·) (some none) metadata.documentation
  pathless : metadata.libraryPath = ""

/-- The members that fields ask for. -/
def Metadata.fieldNames : List String :=
  ["key", "name", "category", "authors", "description", "documentation"]

/-- A text or a list of texts is decoded to authors, and nothing else. -/
theorem Authors.ofJson_iff {document : Json} {authors : Authors} :
    Authors.schema.ofJson document = .ok authors ↔ document = authors.toJson := by
  constructor
  · intro decodes
    obtain ⟨either, found, rfl⟩ := map_ok_iff.mp decodes
    rw [Schema.ofJson] at found
    -- The text is tried first, and the list of texts where it is none.
    cases single : Schema.text.ofJson document with
    | ok text =>
      rw [single] at found
      cases found
      exact Schema.ofJson_text_iff.mp single
    | error mismatch =>
      rw [single] at found
      cases many : (Schema.list .text).ofJson document with
      | ok names =>
        rw [many] at found
        cases found
        exact Schema.ofJson_texts_iff.mp many
      | error mismatch =>
        rw [many] at found
        cases found
  · rintro rfl
    exact (authors.stands Nat.one_lt_two).decodes

/-- **What is decoded from an entry is what it describes.** -/
theorem Metadata.ofJson_iff {entry : Json} {metadata : Metadata} :
    Metadata.schema.ofJson entry = .ok metadata ↔ Describes entry metadata := by
  refine (Schema.ofJson_record_iff (by decide)).trans ⟨?_, ?_⟩
  · rintro ⟨fits, ⟨key, name, category, authors, description, documentation, ⟨⟩⟩, supplied, rfl⟩
    simp only [Fields.SuppliedBy, Schema.ofJson_text_iff, Schema.ofJson_optionalText_iff,
      Schema.ofJson_texts_iff, Authors.ofJson_iff] at supplied
    obtain ⟨key, name, category, authors, description, documentation, -⟩ := supplied
    exact ⟨fits, key, name, category, authors, description, documentation, rfl⟩
  · rintro ⟨fits, key, name, category, authors, description, documentation, pathless⟩
    refine ⟨fits, ⟨metadata.key, metadata.name, metadata.category, metadata.authors,
      metadata.description, metadata.documentation, ()⟩, ?_, ?_⟩
    · simp only [Fields.SuppliedBy, Schema.ofJson_text_iff, Schema.ofJson_optionalText_iff,
        Schema.ofJson_texts_iff, Authors.ofJson_iff]
      exact ⟨key, name, category, authors, description, documentation, trivial⟩
    · -- The path is the one part of metadata that no field gives.
      cases metadata
      cases pathless
      rfl

namespace Describes

variable {entry : Json} {metadata : Metadata}

/-- **Only an object with a key is metadata, or a list that begins with one**, a text in either
case. -/
theorem object_or_list (described : Describes entry metadata) :
    (∃ members, entry = .object members ∧ ("key", .string metadata.key) ∈ members) ∨
      ∃ others, entry = .array (.string metadata.key :: others) ∧ others.length ≤ 5 := by
  have key := described.key
  cases described.fits with
  | object members =>
    refine .inl ⟨members, rfl, ?_⟩
    have last := key.last
    cases found : members.reverse.lookup "key" with
    | none =>
      rw [found, resolves_none_iff] at last
      cases last
    | some document =>
      rw [found, resolves_some_iff] at last
      obtain ⟨before, after, parts, -⟩ := List.lookup_eq_some_iff.mp found
      rw [← List.mem_reverse, parts, last]
      exact List.mem_append_right _ List.mem_cons_self
  | @array items short =>
    refine .inr ?_
    cases items with
    | nil => cases resolves_none_iff.mp key
    | cons first others =>
      obtain rfl := resolves_some_iff.mp key
      exact ⟨others, rfl, Nat.le_of_succ_le_succ short⟩

/-- **What an object describes is what its known members describe.** -/
theorem filter_iff {members : List (String × Json)} :
    Describes (.object (members.filter (·.1 ∈ Metadata.fieldNames))) metadata ↔
      Describes (.object members) metadata := by
  have same {name : String} (asked : name ∈ Metadata.fieldNames) {α : Type} (place : Nat)
      (stands : Json → α → Prop) (absent : Option α) (value : α) :
      (Json.object (members.filter (·.1 ∈ Metadata.fieldNames))).Supplies name place stands absent
          value ↔
        (Json.object members).Supplies name place stands absent value :=
    Given.filter_iff asked
  rw [describes_iff, describes_iff]
  refine and_congr ⟨fun _ => .object _, fun _ => .object _⟩ ?_
  simp (disch := decide) only [same]

end Describes

/-! ### Whole files -/

/-- The entries of a document are these and no others. -/
theorem Lists.unique {document : Json} {entries others : List Json}
    (lists : Lists document entries) (lists' : Lists document others) : entries = others := by
  cases lists <;> cases lists' <;> rfl

namespace FileTree

variable {tree : FileTree} {path : String} {bytes : ByteArray} {text : String} {document : Json}

/-- A file gives what its entries describe. -/
theorem readRecords_ok_iff_describes (opens : tree.openNode path = .ok (.file bytes))
    (decodes : String.fromUTF8? bytes = some text) (parses : Json.parse text = .ok document)
    {records : List Metadata} :
    tree.readRecords path = .ok records ↔
      ∃ entries, Lists document entries ∧ List.Forall₂ Describes entries records := by
  rw [readRecords_ok_iff opens]
  constructor
  · rintro ⟨decodes', parses', lists, reads⟩
    obtain rfl := Option.some.inj (decodes.symm.trans decodes')
    obtain rfl := Except.ok.inj (parses.symm.trans parses')
    exact ⟨_, lists, reads.imp fun _ _ => Metadata.ofJson_iff.mp⟩
  · rintro ⟨entries, lists, described⟩
    exact .intro decodes parses lists (described.imp fun _ _ => Metadata.ofJson_iff.mpr)

/-- What comes of reading the file of a document. -/
structure Yields (tree : FileTree) (path : String) (document : Json) : Prop where
  /-- One record for each entry, in order, with what the entry says. -/
  records : ∀ records, tree.readRecords path = .ok records ↔
    ∃ entries, Lists document entries ∧ List.Forall₂ Describes entries records
  fails : (∀ entries, Lists document entries →
      ∃ entry ∈ entries, ∀ metadata, ¬ Describes entry metadata) →
    ∃ fault, tree.readRecords path = .error fault
  /-- An entry that is read is an object with a key, or a list that begins with the key. -/
  shapes : ∀ entries records, Lists document entries → tree.readRecords path = .ok records →
    List.Forall₂ (fun entry record =>
        (∃ members, entry = .object members ∧ ("key", .string record.key) ∈ members) ∨
          ∃ others, entry = .array (.string record.key :: others) ∧ others.length ≤ 5)
      entries records
  /-- No path is read. -/
  pathless : ∀ records, tree.readRecords path = .ok records →
    ∀ record ∈ records, record.libraryPath = ""
  /-- Members that no field asks for say nothing. -/
  passesOver : ∀ members metadata,
    Metadata.schema.ofJson (.object (members.filter (·.1 ∈ Metadata.fieldNames))) = .ok metadata ↔
      Metadata.schema.ofJson (.object members) = .ok metadata

/-- **The files that are read, and what they give**, entry by entry. -/
theorem readRecords_describes (opens : tree.openNode path = .ok (.file bytes))
    (decodes : String.fromUTF8? bytes = some text) (parses : Json.parse text = .ok document) :
    tree.Yields path document where
  records _ := readRecords_ok_iff_describes opens decodes parses
  fails := by
    intro undescribed
    cases outcome : tree.readRecords path with
    | error fault => exact ⟨fault, rfl⟩
    | ok records =>
      obtain ⟨entries, lists, described⟩ :=
        (readRecords_ok_iff_describes opens decodes parses).mp outcome
      obtain ⟨entry, member, none⟩ := undescribed entries lists
      obtain ⟨metadata, -, describes⟩ := exists_left_of_forall₂ described.flip member
      exact absurd describes (none metadata)
  shapes := by
    intro entries records lists succeeds
    obtain ⟨others, lists', described⟩ :=
      (readRecords_ok_iff_describes opens decodes parses).mp succeeds
    obtain rfl := lists.unique lists'
    exact described.imp fun _ _ describes => describes.object_or_list
  pathless := by
    intro records succeeds record member
    obtain ⟨entries, -, described⟩ :=
      (readRecords_ok_iff_describes opens decodes parses).mp succeeds
    obtain ⟨entry, -, describes⟩ := exists_left_of_forall₂ described member
    exact describes.pathless
  passesOver := by
    intro members metadata
    rw [Metadata.ofJson_iff, Metadata.ofJson_iff]
    exact Describes.filter_iff

/-- An object with a member that no field asks for, and a list of values. -/
def twoShapes : String :=
  "[\x7b\"key\":\"a\",\"b\":[]\x7d,[\"k\",null]]"

/-- Both shapes of an entry are read. -/
theorem readRecords_describes_twoShapes :
    ∃ document, Json.parse twoShapes = .ok document ∧
      (PageContext.oneDirectory twoShapes.toUTF8).Yields "l/x/m" document ∧
      (PageContext.oneDirectory twoShapes.toUTF8).readRecords "l/x/m" =
        .ok [{ key := "a" }, { key := "k" }] := by
  have parses : Json.parse twoShapes =
      .ok (.array
        [.object [("b", .array []), ("key", .string "a")], .array [.string "k", .null]]) := by
    cbv
  have opens := PageContext.openNode_oneDirectory twoShapes.toUTF8
  have yields := readRecords_describes opens rfl parses
  refine ⟨_, parses, yields, (yields.records _).mpr ⟨_, .array _, .cons ?_ (.cons ?_ .nil)⟩⟩
  · exact Metadata.ofJson_iff.mp (by cbv)
  · exact Metadata.ofJson_iff.mp (by cbv)

/-- A list in the place of an object is read as a record. -/
theorem listedValues_read :
    (PageContext.oneDirectory "[[\"k\"]]".toUTF8).readRecords "l/x/m" = .ok [{ key := "k" }] ∧
      ¬ ∀ (tree : FileTree) (path : String) (bytes : ByteArray) (text : String)
        (entries : List Json) (records : List Metadata),
        tree.openNode path = .ok (.file bytes) → String.fromUTF8? bytes = some text →
        Json.parse text = .ok (.array entries) → tree.readRecords path = .ok records →
        ∀ entry ∈ entries, ∃ members key, entry = .object members ∧
          ("key", Json.string key) ∈ members := by
  have parses : Json.parse "[[\"k\"]]" = .ok (.array [.array [.string "k"]]) := by
    cbv
  have read : (PageContext.oneDirectory "[[\"k\"]]".toUTF8).readRecords "l/x/m" =
      .ok [{ key := "k" }] :=
    (readRecords_ok_iff (PageContext.openNode_oneDirectory _) _).mpr
      (.intro rfl parses (.array _) (.cons (by cbv) .nil))
  refine ⟨read, fun all => ?_⟩
  obtain ⟨members, key, same, -⟩ :=
    all _ _ _ _ _ _ (PageContext.openNode_oneDirectory _) rfl parses read _ List.mem_cons_self
  cases same

end FileTree

end CatalogPages
