/-
**What loading makes of a release.**

Every candidate directory adds the metadata of its file, or nothing if it has none, and of records
with one key the last is kept. The first file that is refused ends it all.

* `Adds`: what one directory adds, with the directory as the path of its libraries;
* `get?_addAll`: the last record of a key is the one that is kept;
* `load_ok_iff`, `load_error_iff`: a release is loaded to what its candidates add, one after
  another, or not for the first that is refused;
* `load_result`: the catalog of all records, or the fault of the first file that is refused.
-/

import CatalogPages.Proofs.FileTree.Overwriting
import CatalogPages.Proofs.Loading.Records
import CatalogPages.Proofs.Success
import CatalogPages.Proofs.Text.Search
import Mathlib

namespace CatalogPages

/-! ### Records of one key -/

/-- Adds records under their keys, one after another. -/
def Catalog.addAll (catalog : Catalog Metadata) (records : List Metadata) : Catalog Metadata :=
  records.foldl (fun catalog metadata => catalog.insert metadata.key metadata) catalog

@[simp] theorem Catalog.addAll_nil (catalog : Catalog Metadata) : catalog.addAll [] = catalog := rfl

@[simp] theorem Catalog.addAll_cons (catalog : Catalog Metadata) (metadata : Metadata)
    (records : List Metadata) :
    catalog.addAll (metadata :: records) =
      (catalog.insert metadata.key metadata).addAll records := rfl

theorem Catalog.addAll_append (catalog : Catalog Metadata) (first second : List Metadata) :
    catalog.addAll (first ++ second) = (catalog.addAll first).addAll second :=
  List.foldl_append

/-- A record of a list after which none has its key. -/
def IsLast (key : String) (records : List Metadata) (record : Metadata) : Prop :=
  ∃ earlier later, records = earlier ++ record :: later ∧ record.key = key ∧
    ∀ other ∈ later, other.key ≠ key

theorem isLast_cons_iff (key : String) (first : Metadata) (records : List Metadata)
    (record : Metadata) :
    IsLast key (first :: records) record ↔
      IsLast key records record ∨
        (first = record ∧ first.key = key ∧ ∀ other ∈ records, other.key ≠ key) := by
  constructor
  · rintro ⟨earlier, later, split, named, last⟩
    cases earlier with
    | nil =>
      obtain ⟨rfl, rfl⟩ := List.cons.inj split
      exact .inr ⟨rfl, named, last⟩
    | cons other earlier =>
      obtain ⟨rfl, rfl⟩ := List.cons.inj split
      exact .inl ⟨earlier, later, rfl, named, last⟩
  · rintro (⟨earlier, later, rfl, named, last⟩ | ⟨rfl, named, last⟩)
    · exact ⟨first :: earlier, later, rfl, named, last⟩
    · exact ⟨[], records, rfl, named, last⟩

/-- **The last record of a key is kept**; what was there before stays if there is none. -/
theorem Catalog.get?_addAll (key : String) (record : Metadata) (records : List Metadata) :
    ∀ catalog : Catalog Metadata, (catalog.addAll records).get? key = some record ↔
      IsLast key records record ∨
        (catalog.get? key = some record ∧ ∀ other ∈ records, other.key ≠ key) := by
  induction records with
  | nil => simp [IsLast]
  | cons first records ih =>
    intro catalog
    rw [addAll_cons, ih, get?_insert, isLast_cons_iff, or_assoc]
    refine or_congr_right ?_
    by_cases named : key = first.key
    · simp [named]
    · simp [named, Ne.symm named]

/-! ### One directory -/

/-- A path, and what is left of it without a front that it may have. -/
inductive Stripped (front : String) : String → String → Prop
  | front (rest : String) : Stripped front (front ++ rest) rest
  | whole {path : String} (differs : ¬ front.toList <+: path.toList) : Stripped front path path

namespace Settings

/-- The path of a library is its directory without the prefix of the settings. -/
theorem stripped_iff (settings : Settings) (directory path : String) :
    Stripped settings.pathPrefix directory path ↔ path = settings.libraryPath directory := by
  unfold libraryPath
  constructor
  · intro stripped
    cases stripped with
    | front rest =>
      rw [String.toList_append, Text.after?_append]
      exact String.ofList_toList.symm
    | whole differs =>
      cases cut : Text.after? settings.pathPrefix.toList directory.toList with
      | none => rfl
      | some rest => exact absurd ⟨rest, (Text.after?_eq_some.mp cut).symm⟩ differs
  · rintro rfl
    cases cut : Text.after? settings.pathPrefix.toList directory.toList with
    | some rest =>
      have whole : directory = settings.pathPrefix ++ String.ofList rest := by
        rw [← String.toList_inj, String.toList_append, String.toList_ofList]
        exact Text.after?_eq_some.mp cut
      conv => arg 2; rw [whole]
      exact .front _
    | none =>
      refine .whole ?_
      rintro ⟨rest, split⟩
      rw [Text.after?_eq_some.mpr split.symm] at cut
      cases cut

/-- Where a directory has its metadata. -/
def metadataPath (settings : Settings) (root directory : String) : String :=
  Path.join (Path.join root directory) settings.metadataFile

variable (settings : Settings) (tree : FileTree) (root : String)

/-- What a candidate directory adds to the catalog. -/
inductive Adds (directory : String) : List Metadata → Prop
  | nothing (missing : tree.isFile (settings.metadataPath root directory) = false) :
      Adds directory []
  | records {bytes : ByteArray} {records : List Metadata} {libraryPath : String}
      (opens : tree.openNode (settings.metadataPath root directory) = .ok (.file bytes))
      (encodes : Encodes bytes records)
      (stripped : Stripped settings.pathPrefix directory libraryPath) :
      Adds directory (records.map fun metadata => { metadata with libraryPath })

/-- A candidate directory whose file is refused, and the fault. -/
def Fails (directory : String) (fault : Fault) : Prop :=
  ∃ bytes, tree.openNode (settings.metadataPath root directory) = .ok (.file bytes) ∧
    Refused (settings.metadataPath root directory) bytes fault

variable {settings tree root}

/-! ### One directory after another -/

theorem result_addRecord (catalog : Catalog Metadata) (metadata : Metadata) :
    (catalog.addRecord metadata).result = .ok (catalog.insert metadata.key metadata) := by
  unfold Catalog.addRecord Catalog.exchange
  cases catalog.get? metadata.key <;> rfl

/-- The records of one file are added in order. -/
theorem result_foldlM_addRecord (records : List Metadata) (catalog : Catalog Metadata) :
    (records.foldlM Catalog.addRecord catalog).result = .ok (catalog.addAll records) :=
  Traced.result_foldlM result_addRecord records catalog

/-- A directory whose metadata is read goes on with it. -/
theorem result_loadDirectory_of_adds {directory : String} {records : List Metadata}
    (adds : Adds settings tree root directory records) (catalog : Catalog Metadata) :
    (settings.loadDirectory tree root catalog directory).result =
      .ok (catalog.addAll records) := by
  unfold loadDirectory
  cases adds with
  | nothing missing =>
    rw [metadataPath] at missing
    simp only [missing, Bool.false_eq_true, if_false, Traced.bind_eq, Traced.result_andThen,
      Traced.result_report]
    rfl
  | records opens encodes stripped =>
    have isFile := (tree.isFile_iff _).mpr ⟨_, opens⟩
    rw [metadataPath] at isFile opens
    rw [(stripped_iff ..).mp stripped]
    simp only [isFile, if_true, Traced.bind_eq, Traced.result_andThen, Traced.result_of,
      (FileTree.readRecords_ok_iff opens _).mpr encodes, Except.bind]
    rw [← result_foldlM_addRecord, List.foldlM_map]

/-- A directory whose file is refused ends the work. -/
theorem result_loadDirectory_of_fails {directory : String} {fault : Fault}
    (fails : Fails settings tree root directory fault) (catalog : Catalog Metadata) :
    (settings.loadDirectory tree root catalog directory).result = .error fault := by
  obtain ⟨bytes, opens, refused⟩ := fails
  unfold loadDirectory
  have isFile := (tree.isFile_iff _).mpr ⟨_, opens⟩
  have read := (FileTree.readRecords_error_iff opens fault).mpr refused
  rw [metadataPath] at isFile read
  simp only [isFile, if_true, Traced.bind_eq, Traced.result_andThen, Traced.result_of, read]
  rfl

theorem adds_or_fails (settings : Settings) (tree : FileTree) (root directory : String) :
    (∃ records, Adds settings tree root directory records) ∨
      ∃ fault, Fails settings tree root directory fault := by
  cases isFile : tree.isFile (settings.metadataPath root directory) with
  | false => exact .inl ⟨[], .nothing isFile⟩
  | true =>
    obtain ⟨bytes, opens⟩ := (tree.isFile_iff _).mp isFile
    rcases FileTree.encodes_or_refused _ bytes with ⟨records, encodes⟩ | ⟨fault, refused⟩
    · exact .inl ⟨_, .records opens encodes ((stripped_iff ..).mpr rfl)⟩
    · exact .inr ⟨fault, bytes, opens, refused⟩

/-- The file of a directory that adds something stands for metadata. -/
theorem Adds.encodes {directory : String} {records : List Metadata}
    (adds : Adds settings tree root directory records) {bytes : ByteArray}
    (opens : tree.openNode (settings.metadataPath root directory) = .ok (.file bytes)) :
    ∃ records, Encodes bytes records := by
  cases adds with
  | nothing missing =>
    rw [(tree.isFile_iff _).mpr ⟨bytes, opens⟩] at missing
    cases missing
  | records opens' encodes =>
    rw [opens] at opens'
    cases opens'
    exact ⟨_, encodes⟩

/-- The files of directories that add something all stand for metadata. -/
theorem encodes_of_adds {directories : List String} {found : List (List Metadata)}
    (adds : List.Forall₂ (Adds settings tree root) directories found) :
    ∀ directory ∈ directories, ∀ bytes,
      tree.openNode (settings.metadataPath root directory) = .ok (.file bytes) →
        ∃ records, Encodes bytes records := by
  intro directory listed bytes opens
  obtain ⟨_, -, here⟩ := exists_left_of_forall₂ adds.flip listed
  exact Adds.encodes here opens

/-- A file that is refused stands for no metadata. -/
theorem Fails.not_encodes {directory : String} {fault : Fault}
    (fails : Fails settings tree root directory fault) :
    ∃ bytes, tree.openNode (settings.metadataPath root directory) = .ok (.file bytes) ∧
      ∀ records, ¬ Encodes bytes records := by
  obtain ⟨bytes, opens, refused⟩ := fails
  refine ⟨bytes, opens, fun records encodes => ?_⟩
  have read := FileTree.readRecords_of_encodes opens encodes
  rw [FileTree.readRecords_of_refused opens refused] at read
  cases read

/-- Directories that are all read add what each adds, in order. -/
theorem result_foldlM_of_adds {directories : List String} {found : List (List Metadata)}
    (adds : List.Forall₂ (Adds settings tree root) directories found) :
    ∀ catalog : Catalog Metadata,
      (directories.foldlM (settings.loadDirectory tree root) catalog).result =
        .ok (catalog.addAll found.flatten) := by
  induction adds with
  | nil => exact fun _ => rfl
  | cons here _ ih =>
    intro catalog
    rw [List.foldlM_cons, Traced.bind_eq, Traced.result_andThen,
      result_loadDirectory_of_adds here, List.flatten_cons, Catalog.addAll_append, ← ih]
    rfl

/-- The first directory whose file is refused decides. -/
theorem result_foldlM_of_fails {before after : List String} {directory : String} {fault : Fault}
    {found : List (List Metadata)} (earlier : List.Forall₂ (Adds settings tree root) before found)
    (fails : Fails settings tree root directory fault) (catalog : Catalog Metadata) :
    ((before ++ directory :: after).foldlM (settings.loadDirectory tree root) catalog).result =
      .error fault := by
  rw [List.foldlM_append, Traced.bind_eq, Traced.result_andThen, result_foldlM_of_adds earlier,
    Except.bind, List.foldlM_cons, Traced.bind_eq, Traced.result_andThen,
    result_loadDirectory_of_fails fails]
  rfl

/-- Directories are all read, or there is a first one whose file is refused. -/
theorem all_add_or_fails (settings : Settings) (tree : FileTree) (root : String)
    (directories : List String) :
    (∃ found, List.Forall₂ (Adds settings tree root) directories found) ∨
    ∃ before directory after found fault, directories = before ++ directory :: after ∧
      List.Forall₂ (Adds settings tree root) before found ∧
      Fails settings tree root directory fault := by
  induction directories with
  | nil => exact .inl ⟨[], .nil⟩
  | cons directory directories ih =>
    rcases adds_or_fails settings tree root directory with ⟨records, adds⟩ | ⟨fault, fails⟩
    · rcases ih with ⟨found, rest⟩ | ⟨before, other, after, found, fault, rfl, earlier, fails⟩
      · exact .inl ⟨records :: found, .cons adds rest⟩
      · exact .inr ⟨directory :: before, other, after, records :: found, fault, rfl,
          .cons adds earlier, fails⟩
    · exact .inr ⟨[], directory, directories, [], fault, rfl, .nil, fails⟩

/-! ### Loading -/

/-- Work on the candidates and then on their catalog, without its events. -/
theorem result_load (settings : Settings) (tree : FileTree) (root : String) :
    (settings.load tree root).result =
      (settings.candidates tree root).result.bind fun directories =>
        (directories.foldlM (settings.loadDirectory tree root) Catalog.empty).result := by
  unfold load
  rw [Traced.bind_eq, Traced.result_andThen]
  congr 1
  funext directories
  rw [Traced.bind_eq, Traced.result_andThen]
  cases (directories.foldlM (settings.loadDirectory tree root) Catalog.empty).result <;> rfl

/-- What a release is loaded to is what its candidates add, one after another. -/
theorem load_ok_iff {catalog : Catalog Metadata} :
    (settings.load tree root).result = .ok catalog ↔
      ∃ directories found, (settings.candidates tree root).result = .ok directories ∧
        List.Forall₂ (Adds settings tree root) directories found ∧
        Catalog.empty.addAll found.flatten = catalog := by
  rw [result_load, bind_ok_iff]
  constructor
  · rintro ⟨directories, candidates, loads⟩
    rcases all_add_or_fails settings tree root directories with ⟨found, adds⟩ | failed
    · rw [result_foldlM_of_adds adds] at loads
      exact ⟨directories, found, candidates, adds, Except.ok.inj loads⟩
    · obtain ⟨before, directory, after, found, fault, rfl, earlier, fails⟩ := failed
      cases loads.symm.trans (result_foldlM_of_fails earlier fails Catalog.empty)
  · rintro ⟨directories, found, candidates, adds, rfl⟩
    exact ⟨directories, candidates, result_foldlM_of_adds adds Catalog.empty⟩

/-- A release is not loaded where the candidates are not found, or for the first of them whose file
is refused. -/
theorem load_error_iff {fault : Fault} :
    (settings.load tree root).result = .error fault ↔
      (settings.candidates tree root).result = .error fault ∨
      ∃ before directory after found,
        (settings.candidates tree root).result = .ok (before ++ directory :: after) ∧
        List.Forall₂ (Adds settings tree root) before found ∧
        Fails settings tree root directory fault := by
  rw [result_load, bind_error_iff]
  refine or_congr_right ?_
  constructor
  · rintro ⟨directories, candidates, failed⟩
    rcases all_add_or_fails settings tree root directories with ⟨found, adds⟩ | first
    · cases failed.symm.trans (result_foldlM_of_adds adds Catalog.empty)
    · obtain ⟨before, directory, after, found, cause, rfl, earlier, fails⟩ := first
      cases failed.symm.trans (result_foldlM_of_fails earlier fails Catalog.empty)
      exact ⟨before, directory, after, found, candidates, earlier, fails⟩
  · rintro ⟨before, directory, after, found, candidates, earlier, fails⟩
    exact ⟨_, candidates, result_foldlM_of_fails earlier fails Catalog.empty⟩

/-- **Loading is complete and all or nothing.** It succeeds where the candidates are found and each
of their files stands for metadata. The catalog then holds the last record of each key, and nothing
else; and otherwise the fault is that of the candidates or of the first file that is refused. -/
theorem load_result (settings : Settings) (tree : FileTree) (root : String) :
    ((∃ catalog, (settings.load tree root).result = .ok catalog) ↔
      ∃ directories, (settings.candidates tree root).result = .ok directories ∧
        ∀ directory ∈ directories, ∀ bytes,
          tree.openNode (settings.metadataPath root directory) = .ok (.file bytes) →
            ∃ records, Encodes bytes records) ∧
    match (settings.load tree root).result with
    | .ok catalog =>
      ∃ directories found, (settings.candidates tree root).result = .ok directories ∧
        List.Forall₂ (Adds settings tree root) directories found ∧
        ∀ key record, catalog.get? key = some record ↔ IsLast key found.flatten record
    | .error fault =>
      (settings.candidates tree root).result = .error fault ∨
      ∃ before directory after found,
        (settings.candidates tree root).result = .ok (before ++ directory :: after) ∧
        List.Forall₂ (Adds settings tree root) before found ∧
        Fails settings tree root directory fault := by
  constructor
  · constructor
    · rintro ⟨catalog, loads⟩
      obtain ⟨directories, found, candidates, adds, -⟩ := load_ok_iff.mp loads
      exact ⟨directories, candidates, encodes_of_adds adds⟩
    · rintro ⟨directories, candidates, reads⟩
      cases loads : (settings.load tree root).result with
      | ok catalog => exact ⟨catalog, rfl⟩
      | error fault =>
        rcases load_error_iff.mp loads with missing | ⟨before, directory, _, _, split, -, fails⟩
        · cases candidates.symm.trans missing
        · obtain rfl := Except.ok.inj (candidates.symm.trans split)
          obtain ⟨bytes, opens, never⟩ := fails.not_encodes
          obtain ⟨records, encodes⟩ := reads directory (by simp) bytes opens
          exact absurd encodes (never records)
  · cases loads : (settings.load tree root).result with
    | ok catalog =>
      obtain ⟨directories, found, candidates, adds, rfl⟩ := load_ok_iff.mp loads
      exact ⟨directories, found, candidates, adds, fun key record => by
        simp [Catalog.get?_addAll]⟩
    | error fault => exact load_error_iff.mp loads

/-- Settings that include no directory, with short paths. -/
def scansOnly : Settings where
  libsDir := "l"
  metadataFile := "m"
  pathPrefix := "l/"
  include_ := []

/-- Three directories, the second of which has no metadata. -/
def threeDirectories (first last : ByteArray) : FileTree where
  nodes := [(["l"], .directory), (["l", "x"], .directory), (["l", "x", "m"], .file first),
    (["l", "y"], .directory), (["l", "z"], .directory), (["l", "z", "m"], .file last)]

theorem candidates_threeDirectories (first last : ByteArray) :
    (scansOnly.candidates (threeDirectories first last) "").result =
      .ok ["l/x", "l/y", "l/z"] := by
  cbv

theorem opens_firstDirectory (first last : ByteArray) :
    (threeDirectories first last).openNode (scansOnly.metadataPath "" "l/x") =
      .ok (.file first) :=
  FileTree.openNode_of_walks rfl rfl
    (.into (by decide) rfl (.into (by decide) rfl (.last (by decide) rfl rfl)))

theorem opens_lastDirectory (first last : ByteArray) :
    (threeDirectories first last).openNode (scansOnly.metadataPath "" "l/z") =
      .ok (.file last) :=
  FileTree.openNode_of_walks rfl rfl
    (.into (by decide) rfl (.into (by decide) rfl (.last (by decide) rfl rfl)))

theorem isFile_secondDirectory (first last : ByteArray) :
    (threeDirectories first last).isFile (scansOnly.metadataPath "" "l/y") = false := by
  have leads : (threeDirectories first last).resolve (scansOnly.metadataPath "" "l/y") =
      .ok (.vacant ["l", "y", "m"]) :=
    (FileTree.follow_into (by decide) _ rfl).trans
      ((FileTree.follow_into (by decide) _ rfl).trans (FileTree.follow_vacant (by decide) rfl))
  rw [FileTree.isFile, leads]

/-- The first directory adds its metadata, and the second adds nothing. -/
theorem adds_threeDirectories {first last : ByteArray} {records : List Metadata}
    (encodes : Encodes first records) :
    List.Forall₂ (Adds scansOnly (threeDirectories first last) "") ["l/x", "l/y"]
      [records.map fun metadata => { metadata with libraryPath := "x" }, []] := by
  refine .cons ?_ (.cons ?_ .nil)
  · exact .records (opens_firstDirectory ..) encodes (.front "x")
  · exact .nothing (isFile_secondDirectory ..)

/-- A record of one key. -/
def oneRecord : String :=
  "\x7b\"key\":\"k\"\x7d"

theorem encodes_oneRecord : Encodes oneRecord.toUTF8 [{ key := "k" }] := by
  have parses : Json.parse oneRecord = .ok (.object [("key", .string "k")]) := by cbv
  refine .intro rfl parses (.object _) (.cons ?_ .nil)
  cbv

/-- A record of the same key, with a name. -/
def renamedRecord : String :=
  "[\x7b\"key\":\"k\",\"name\":\"n\"\x7d]"

theorem encodes_renamedRecord :
    Encodes renamedRecord.toUTF8 [{ key := "k", name := some "n" }] := by
  have parses : Json.parse renamedRecord =
      .ok (.array [.object [("key", .string "k"), ("name", .string "n")]]) := by
    cbv
  refine .intro rfl parses (.array _) (.cons ?_ .nil)
  cbv

/-- A record of the key, and one without a key. -/
def keylessRecord : String :=
  "[\x7b\"key\":\"k\"\x7d,\x7b\x7d]"

/-- Why the file with it is refused. -/
def keylessFault : Fault :=
  (Fault.of "missing field `key`").within
    (.of "invalid library record" [("file path", "l/z/m"), ("index", "1")])

theorem refused_keylessRecord : Refused "l/z/m" keylessRecord.toUTF8 keylessFault := by
  have decodes : String.fromUTF8? keylessRecord.toUTF8 = some keylessRecord := rfl
  have parses : Json.parse keylessRecord =
      .ok (.array ([.object [("key", .string "k")]] ++ .object [] :: [])) := by
    cbv
  refine .notRecord decodes parses (.array _) (fun other member => ?_) (by cbv)
  obtain rfl := List.mem_singleton.mp member
  exact ⟨{ key := "k" }, by cbv⟩

/-- A release whose last directory has a record of the key that the first has. -/
def renamedRelease : FileTree :=
  threeDirectories oneRecord.toUTF8 renamedRecord.toUTF8

/-- A release whose last directory has a record without a key. -/
def keylessRelease : FileTree :=
  threeDirectories oneRecord.toUTF8 keylessRecord.toUTF8

theorem adds_renamedRelease :
    List.Forall₂ (Adds scansOnly renamedRelease "") ["l/x", "l/y", "l/z"]
      [[{ key := "k", libraryPath := "x" }], [],
        [{ key := "k", name := some "n", libraryPath := "z" }]] :=
  List.rel_append (adds_threeDirectories encodes_oneRecord)
    (.cons (.records (opens_lastDirectory ..) encodes_renamedRecord (.front "z")) .nil)

theorem load_renamedRelease :
    ∃ catalog, (scansOnly.load renamedRelease "").result = .ok catalog ∧
      catalog.entries = [("k", { key := "k", name := some "n", libraryPath := "z" })] :=
  ⟨_, load_ok_iff.mpr ⟨_, _, candidates_threeDirectories .., adds_renamedRelease, rfl⟩, by decide⟩

theorem fails_keylessRelease : Fails scansOnly keylessRelease "" "l/z" keylessFault :=
  ⟨_, opens_lastDirectory .., refused_keylessRecord⟩

theorem load_keylessRelease :
    (scansOnly.load keylessRelease "").result = .error keylessFault := by
  have earlier : List.Forall₂ (Adds scansOnly keylessRelease "") ["l/x", "l/y"] _ :=
    adds_threeDirectories encodes_oneRecord
  have candidates : (scansOnly.candidates keylessRelease "").result =
      .ok (["l/x", "l/y"] ++ "l/z" :: []) :=
    candidates_threeDirectories ..
  exact load_error_iff.mpr (.inr ⟨_, _, _, _, candidates, earlier, fails_keylessRelease⟩)

/-- The record of a key that is found last is kept, with the directory where it was found, and a
directory without metadata adds nothing. A file with a record without a key is refused. -/
theorem load_result_threeDirectories :
    (∃ catalog found, (scansOnly.load renamedRelease "").result = .ok catalog ∧
      List.Forall₂ (Adds scansOnly renamedRelease "") ["l/x", "l/y", "l/z"] found ∧
      (∀ key record, catalog.get? key = some record ↔ IsLast key found.flatten record) ∧
      catalog.entries = [("k", { key := "k", name := some "n", libraryPath := "z" })]) ∧
    (scansOnly.load keylessRelease "").result = .error keylessFault ∧
      ∃ before directory after found, ["l/x", "l/y", "l/z"] = before ++ directory :: after ∧
        List.Forall₂ (Adds scansOnly keylessRelease "") before found ∧
        Fails scansOnly keylessRelease "" directory keylessFault := by
  constructor
  · obtain ⟨catalog, loads, entries⟩ := load_renamedRelease
    have holds := (load_result scansOnly renamedRelease "").2
    rw [loads] at holds
    obtain ⟨directories, found, candidates, adds, kept⟩ := holds
    obtain rfl := Except.ok.inj ((candidates_threeDirectories ..).symm.trans candidates)
    exact ⟨catalog, found, loads, adds, kept, entries⟩
  · have holds := (load_result scansOnly keylessRelease "").2
    rw [load_keylessRelease] at holds
    rcases holds with missing | ⟨before, directory, after, found, candidates, adds, fails⟩
    · cases (candidates_threeDirectories ..).symm.trans missing
    · have split := Except.ok.inj ((candidates_threeDirectories ..).symm.trans candidates)
      exact ⟨load_keylessRelease, before, directory, after, found, split, adds, fails⟩

end Settings

end CatalogPages
