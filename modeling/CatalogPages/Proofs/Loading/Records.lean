/-
**What a metadata file says.**

The bytes of a metadata file either stand for the metadata of some libraries or are refused with a
fault that names the path.

* `Encodes`: text that is a document with entries, all of which are metadata;
* `Refused`: why bytes are no such text. Of several entries that are no metadata the first counts;
* `readRecords_ok_iff`, `readRecords_error_iff`: this is how a file is read.
-/

import CatalogPages.MetadataFile
import Mathlib.Data.List.Forall2

namespace CatalogPages

/-! ### Bytes of a file -/

/-- A path leads to a file exactly when it opens as one. -/
theorem FileTree.isFile_iff (tree : FileTree) (path : String) :
    tree.isFile path = true ↔ ∃ bytes, tree.openNode path = .ok (.file bytes) := by
  unfold FileTree.isFile FileTree.openNode
  constructor
  · intro leads
    split at leads
    · next location bytes resolved => exact ⟨bytes, by rw [resolved]; rfl⟩
    · cases leads
  · rintro ⟨bytes, opens⟩
    cases resolved : tree.resolve path with
    | error fault =>
      rw [resolved] at opens
      cases opens
    | ok destination =>
      rw [resolved] at opens
      cases destination with
      | present location node =>
        cases opens
        rfl
      | vacant location => cases opens
      | vacantDirectory => cases opens

/-- The entries of a document of metadata. -/
inductive Lists : Json → List Json → Prop
  | array (entries : List Json) : Lists (.array entries) entries
  | object (members : List (String × Json)) : Lists (.object members) [.object members]

/-- Bytes that stand for metadata. -/
inductive Encodes (bytes : ByteArray) : List Metadata → Prop
  | intro {text : String} {document : Json} {entries : List Json} {records : List Metadata}
      (decodes : String.fromUTF8? bytes = some text) (parses : Json.parse text = .ok document)
      (lists : Lists document entries)
      (reads : List.Forall₂ (fun entry record => Metadata.schema.ofJson entry = .ok record) entries
        records) : Encodes bytes records

/-- Bytes of the file at a path that stand for no metadata, and the fault that says why. -/
inductive Refused (path : String) (bytes : ByteArray) : Fault → Prop
  | notText (undecoded : String.fromUTF8? bytes = none) :
      Refused path bytes (SystemFault.notText.toFault.within
        (.of "failed to read file as UTF-8 text" [("file path", path)]))
  | notJson {text flaw : String} (decodes : String.fromUTF8? bytes = some text)
      (flawed : Json.parse text = .error flaw) :
      Refused path bytes ((Fault.of flaw).within (.of "invalid JSON" [("file path", path)]))
  | notListed {text : String} {document : Json} (decodes : String.fromUTF8? bytes = some text)
      (parses : Json.parse text = .ok document) (unlisted : ∀ entries, ¬ Lists document entries) :
      Refused path bytes
        (.of "metadata must be a JSON object or an array of objects" [("file path", path)])
  | notRecord {text : String} {document entry : Json} {before after : List Json}
      {mismatch : Json.Mismatch} (decodes : String.fromUTF8? bytes = some text)
      (parses : Json.parse text = .ok document) (lists : Lists document (before ++ entry :: after))
      (earlier : ∀ other ∈ before, ∃ record, Metadata.schema.ofJson other = .ok record)
      (mismatched : Metadata.schema.ofJson entry = .error mismatch) :
      Refused path bytes ((Fault.of mismatch.message).within
        (.of "invalid library record" [("file path", path), ("index", toString before.length)]))

/-- The entries of a document, if it has any. -/
theorem lists_or_not (document : Json) :
    (∃ entries, Lists document entries) ∨ ∀ entries, ¬ Lists document entries := by
  cases document with
  | array entries => exact .inl ⟨entries, .array entries⟩
  | object members => exact .inl ⟨_, .object members⟩
  | _ => exact .inr fun entries lists => nomatch lists

/-! ### Entries in order -/

namespace FileTree

/-- The fault of an entry that is no metadata. -/
def entryFault (path : String) (index : Nat) (mismatch : Json.Mismatch) : Fault :=
  (Fault.of mismatch.message).within
    (.of "invalid library record" [("file path", path), ("index", toString index)])

theorem decodeRecord_of_ok {entry : Json} {metadata : Metadata} (path : String) (index : Nat)
    (reads : Metadata.schema.ofJson entry = .ok metadata) :
    decodeRecord path index entry = .ok metadata := by
  rw [decodeRecord, reads]
  rfl

theorem decodeRecord_of_error {entry : Json} {mismatch : Json.Mismatch} (path : String)
    (index : Nat) (mismatched : Metadata.schema.ofJson entry = .error mismatch) :
    decodeRecord path index entry = .error (entryFault path index mismatch) := by
  rw [decodeRecord, mismatched]
  rfl

/-- Entries that are metadata are read in order. -/
theorem decodeRecords_of_forall₂ (path : String) {entries : List Json} {records : List Metadata}
    (reads : List.Forall₂ (fun entry record => Metadata.schema.ofJson entry = .ok record) entries
      records) : ∀ index, decodeRecords path index entries = .ok records := by
  induction reads with
  | nil => exact fun _ => rfl
  | cons here _ ih =>
    intro index
    rw [decodeRecords, decodeRecord_of_ok path index here, ih]
    rfl

/-- **The first entry that is no metadata is the one that is named.** -/
theorem decodeRecords_of_mismatch (path : String) {before after : List Json} {entry : Json}
    {mismatch : Json.Mismatch}
    (earlier : ∀ other ∈ before, ∃ record, Metadata.schema.ofJson other = .ok record)
    (mismatched : Metadata.schema.ofJson entry = .error mismatch) :
    ∀ index, decodeRecords path index (before ++ entry :: after) =
      .error (entryFault path (index + before.length) mismatch) := by
  induction before with
  | nil =>
    intro index
    rw [List.nil_append, decodeRecords, decodeRecord_of_error path index mismatched]
    rfl
  | cons other before ih =>
    intro index
    obtain ⟨record, reads⟩ := earlier other List.mem_cons_self
    have rest := ih (fun entry member => earlier entry (List.mem_cons_of_mem _ member)) (index + 1)
    rw [List.cons_append, decodeRecords, decodeRecord_of_ok path index reads, rest,
      List.length_cons, Nat.add_assoc, Nat.add_comm 1]
    rfl

/-- Entries are all metadata, or there is a first one that is none. -/
theorem forall₂_or_mismatch (entries : List Json) :
    (∃ records, List.Forall₂ (fun entry record => Metadata.schema.ofJson entry = .ok record) entries
      records) ∨
    ∃ before entry after mismatch, entries = before ++ entry :: after ∧
      (∀ other ∈ before, ∃ record, Metadata.schema.ofJson other = .ok record) ∧
      Metadata.schema.ofJson entry = .error mismatch := by
  induction entries with
  | nil => exact .inl ⟨[], .nil⟩
  | cons entry entries ih =>
    cases here : Metadata.schema.ofJson entry with
    | error mismatch =>
      exact .inr ⟨[], entry, entries, mismatch, rfl, fun _ member => (nomatch member), here⟩
    | ok record =>
      rcases ih with ⟨records, reads⟩ | ⟨before, other, after, mismatch, rfl, earlier, fails⟩
      · exact .inl ⟨record :: records, .cons here reads⟩
      · refine .inr ⟨entry :: before, other, after, mismatch, rfl, ?_, fails⟩
        intro earliest member
        rcases List.mem_cons.mp member with rfl | member
        · exact ⟨record, here⟩
        · exact earlier earliest member

/-! ### Whole files -/

theorem readText_of_file {tree : FileTree} {path : String} {bytes : ByteArray}
    (opens : tree.openNode path = .ok (.file bytes)) :
    tree.readText path = within (.of "failed to read file as UTF-8 text" [("file path", path)])
      ((nodeText (.file bytes)).mapError SystemFault.toFault) := by
  rw [readText, opens]
  rfl

theorem readText_of_text {tree : FileTree} {path : String} {bytes : ByteArray} {text : String}
    (opens : tree.openNode path = .ok (.file bytes))
    (decodes : String.fromUTF8? bytes = some text) : tree.readText path = .ok text := by
  rw [readText_of_file opens, nodeText, decodes]
  rfl

theorem readJson_of_text {tree : FileTree} {path : String} {bytes : ByteArray} {text : String}
    (opens : tree.openNode path = .ok (.file bytes))
    (decodes : String.fromUTF8? bytes = some text) :
    tree.readJson path = within (.of "invalid JSON" [("file path", path)])
      ((Json.parse text).mapError Fault.of) := by
  rw [readJson, readText_of_text opens decodes]
  rfl

/-- What a document's entries come to. -/
theorem readRecords_of_lists {tree : FileTree} {path : String} {bytes : ByteArray} {text : String}
    {document : Json} {entries : List Json} (opens : tree.openNode path = .ok (.file bytes))
    (decodes : String.fromUTF8? bytes = some text) (parses : Json.parse text = .ok document)
    (lists : Lists document entries) :
    tree.readRecords path = decodeRecords path 0 entries := by
  rw [readRecords, readJson_of_text opens decodes, parses]
  cases lists <;> rfl

theorem readRecords_of_encodes {tree : FileTree} {path : String} {bytes : ByteArray}
    {records : List Metadata} (opens : tree.openNode path = .ok (.file bytes))
    (encodes : Encodes bytes records) : tree.readRecords path = .ok records := by
  obtain ⟨decodes, parses, lists, reads⟩ := encodes
  rw [readRecords_of_lists opens decodes parses lists, decodeRecords_of_forall₂ path reads]

theorem readRecords_of_refused {tree : FileTree} {path : String} {bytes : ByteArray}
    {fault : Fault} (opens : tree.openNode path = .ok (.file bytes))
    (refused : Refused path bytes fault) : tree.readRecords path = .error fault := by
  cases refused with
  | notText undecoded =>
    rw [readRecords, readJson, readText_of_file opens, nodeText, undecoded]
    rfl
  | notJson decodes flawed =>
    rw [readRecords, readJson_of_text opens decodes, flawed]
    rfl
  | @notListed _ document decodes parses unlisted =>
    rw [readRecords, readJson_of_text opens decodes, parses]
    cases document with
    | array entries => exact absurd (.array entries) (unlisted _)
    | object members => exact absurd (.object members) (unlisted _)
    | _ => rfl
  | notRecord decodes parses lists earlier mismatched =>
    rw [readRecords_of_lists opens decodes parses lists,
      decodeRecords_of_mismatch path earlier mismatched, Nat.zero_add]
    rfl

/-- Bytes stand for metadata or are refused. -/
theorem encodes_or_refused (path : String) (bytes : ByteArray) :
    (∃ records, Encodes bytes records) ∨ ∃ fault, Refused path bytes fault := by
  cases decodes : String.fromUTF8? bytes with
  | none => exact .inr ⟨_, .notText decodes⟩
  | some text =>
    cases parses : Json.parse text with
    | error flaw => exact .inr ⟨_, .notJson decodes parses⟩
    | ok document =>
      rcases lists_or_not document with ⟨entries, lists⟩ | unlisted
      · rcases forall₂_or_mismatch entries with ⟨records, reads⟩ | found
        · exact .inl ⟨records, .intro decodes parses lists reads⟩
        · obtain ⟨before, entry, after, mismatch, rfl, earlier, fails⟩ := found
          exact .inr ⟨_, .notRecord decodes parses lists earlier fails⟩
      · exact .inr ⟨_, .notListed decodes parses unlisted⟩

/-- **A file is read where its bytes stand for metadata**, and only there. -/
theorem readRecords_ok_iff {tree : FileTree} {path : String} {bytes : ByteArray}
    (opens : tree.openNode path = .ok (.file bytes)) (records : List Metadata) :
    tree.readRecords path = .ok records ↔ Encodes bytes records := by
  refine ⟨fun read => ?_, readRecords_of_encodes opens⟩
  rcases encodes_or_refused path bytes with ⟨others, encodes⟩ | ⟨fault, refused⟩
  · rw [readRecords_of_encodes opens encodes] at read
    cases read
    exact encodes
  · rw [readRecords_of_refused opens refused] at read
    cases read

/-- **A file is refused for the reason that its bytes give.** -/
theorem readRecords_error_iff {tree : FileTree} {path : String} {bytes : ByteArray}
    (opens : tree.openNode path = .ok (.file bytes)) (fault : Fault) :
    tree.readRecords path = .error fault ↔ Refused path bytes fault := by
  refine ⟨fun read => ?_, readRecords_of_refused opens⟩
  rcases encodes_or_refused path bytes with ⟨records, encodes⟩ | ⟨cause, refused⟩
  · rw [readRecords_of_encodes opens encodes] at read
    cases read
  · rw [readRecords_of_refused opens refused] at read
    cases read
    exact refused

end FileTree

end CatalogPages
