/-
**No record disappears without a warning.**

Of the records with one key the last is kept. Each of the others is named by one warning, which says
where the next record of its key comes from.

* `Replaced`: the record at a place, and the next one of its key;
* `Accounts`: warnings that account for all records but those that a catalog keeps;
* `Accounts.add_of_absent`, `Accounts.add_of_present`: they still do when one more record is added;
* `exists_accounts`: records that are added one after another are accounted for;
* `duplicateWarnings_foldlM_of_adds`: the directories of a release warn as their records do when
  they are added one after another;
* `load_accounts`: the warnings of a release account for its records.
-/

import CatalogPages.Proofs.Catalog.Order
import CatalogPages.Proofs.Loading.Candidates
import CatalogPages.Proofs.Loading.Catalog
import Mathlib

namespace CatalogPages

/-! ### Sizes of catalogs -/

namespace Catalog

variable {α : Type} {catalog : Catalog α} {key : String}

/-- A key that is new makes a catalog greater by one. -/
theorem size_insert_of_absent (absent : catalog.get? key = none) (value : α) :
    (catalog.insert key value).size = catalog.size + 1 :=
  (Keyed.put_perm value (not_mem_keys absent)).length_eq

/-- A key that is there already leaves a catalog of its size. -/
theorem size_insert_of_present {previous : α} (found : catalog.get? key = some previous)
    (value : α) : (catalog.insert key value).size = catalog.size := by
  have sameKeys : (catalog.insert key value).keys.Perm catalog.keys := by
    refine (List.perm_ext_iff_of_nodup (nodup_keys _) (nodup_keys _)).mpr fun other => ?_
    rw [mem_keys_iff, mem_keys_iff]
    by_cases same : other = key
    · simp [same, found]
    · simp [same]
  have sameLength := sameKeys.length_eq
  unfold keys at sameLength
  rwa [List.length_map, List.length_map] at sameLength

end Catalog

/-! ### Records and the next ones of their keys -/

/-- The record at a place of a list, and the next record of its key. -/
inductive Replaced (records : List Metadata) : Nat → Metadata → Metadata → Prop
  | intro {earlier between later : List Metadata} {record successor : Metadata}
      (split : records = earlier ++ record :: (between ++ successor :: later))
      (sameKey : successor.key = record.key)
      (nearest : ∀ other ∈ between, other.key ≠ record.key) :
      Replaced records earlier.length record successor

/-- What comes later leaves it so. -/
theorem Replaced.add {records : List Metadata} {place : Nat} {record successor : Metadata}
    (replaced : Replaced records place record successor) (last : Metadata) :
    Replaced (records ++ [last]) place record successor := by
  cases replaced with
  | @intro earlier between later _ _ split sameKey nearest =>
    refine @Replaced.intro _ earlier between (later ++ [last]) _ _ ?_ sameKey nearest
    simp [split]

/-- A record that is replaced has a record of its key after it. -/
theorem Replaced.exists_later {earlier later : List Metadata} {first record successor : Metadata}
    (replaced : Replaced (earlier ++ first :: later) earlier.length record successor) :
    ∃ other ∈ later, other.key = first.key := by
  generalize whole : earlier ++ first :: later = records at replaced
  generalize place : earlier.length = length at replaced
  obtain ⟨rfl, sameKey, -⟩ := replaced
  obtain ⟨rfl, rest⟩ := List.append_inj whole place
  obtain ⟨rfl, rfl⟩ := List.cons.inj rest
  exact ⟨successor, by simp, sameKey⟩

/-- There is only one place with a record of a key and none of the key after it. -/
theorem eq_of_noneLater {key : String} {earlier earlier' later later' : List Metadata}
    {record record' : Metadata} (split : earlier ++ record :: later = earlier' ++ record' :: later')
    (named : record.key = key) (named' : record'.key = key)
    (last : ∀ other ∈ later, other.key ≠ key) (last' : ∀ other ∈ later', other.key ≠ key) :
    earlier = earlier' := by
  rcases List.append_eq_append_iff.mp split with ⟨more, rfl, rest⟩ | ⟨more, rfl, rest⟩
  · cases more with
    | nil => simp
    | cons first more =>
      obtain ⟨rfl, rfl⟩ := List.cons.inj rest
      exact absurd named' (last record' (by simp))
  · cases more with
    | nil => simp
    | cons first more =>
      obtain ⟨rfl, rfl⟩ := List.cons.inj rest
      exact absurd named (last' record (by simp))

/-- In a list with one more item, that item is the one at hand, or comes later. -/
theorem append_singleton_split {α : Type} {items earlier later : List α} {last item : α}
    (split : items ++ [last] = earlier ++ item :: later) :
    (earlier = items ∧ item = last ∧ later = []) ∨
      ∃ rest, later = rest ++ [last] ∧ items = earlier ++ item :: rest := by
  rcases List.eq_nil_or_concat' later with rfl | ⟨rest, other, rfl⟩
  · obtain ⟨same, one⟩ := List.append_inj' split rfl
    exact .inl ⟨same.symm, (List.cons.inj one).1.symm, rfl⟩
  · rw [← List.cons_append, ← List.append_assoc] at split
    obtain ⟨same, one⟩ := List.append_inj' split rfl
    obtain ⟨rfl, -⟩ := List.cons.inj one
    exact .inr ⟨rest, rfl, same⟩

/-! ### Warnings -/

/-- The warnings that a record took the place of another. -/
def duplicateWarnings (events : List Event) : List Event :=
  events.filter fun event => event.level = .warn ∧ event.message = "duplicate library key"

@[simp] theorem duplicateWarnings_nil : duplicateWarnings [] = [] := rfl

@[simp] theorem duplicateWarnings_append (first second : List Event) :
    duplicateWarnings (first ++ second) = duplicateWarnings first ++ duplicateWarnings second :=
  List.filter_append ..

/-- Warnings that account for records, and the places of the records that they are about. Each of
them names one record, and the path of the next record of its key; no record is named twice; a
record that is not named is the last of its key, and kept; and there are as many records as are kept
and named. -/
structure Accounts (records : List Metadata) (catalog : Catalog Metadata) (warnings : List Event)
    (places : List Nat) : Prop where
  told : List.Forall₂ (fun place warning => ∃ record successor,
      Replaced records place record successor ∧
      warning = .duplicateKey record.key record.libraryPath successor.libraryPath) places warnings
  once : places.Nodup
  kept : ∀ earlier record later, records = earlier ++ record :: later →
    earlier.length ∉ places →
      catalog.get? record.key = some record ∧ ∀ other ∈ later, other.key ≠ record.key
  size : records.length = catalog.size + warnings.length

namespace Accounts

variable {records : List Metadata} {catalog : Catalog Metadata} {warnings : List Event}
  {places : List Nat}

/-- A record that is named has been replaced. -/
theorem replaced (accounts : Accounts records catalog warnings places) {place : Nat}
    (named : place ∈ places) : ∃ record successor, Replaced records place record successor := by
  obtain ⟨_, -, record, successor, replaced, -⟩ := exists_left_of_forall₂ accounts.told.flip named
  exact ⟨record, successor, replaced⟩

/-- What is told of some records holds of them among more. -/
theorem told_add (accounts : Accounts records catalog warnings places) (last : Metadata) :
    List.Forall₂ (fun place warning => ∃ record successor,
      Replaced (records ++ [last]) place record successor ∧
      warning = .duplicateKey record.key record.libraryPath successor.libraryPath) places
      warnings := by
  refine accounts.told.imp fun place warning ⟨record, successor, replaced, named⟩ => ?_
  exact ⟨record, successor, replaced.add last, named⟩

/-- A record that is not named stays the last of its key, and kept, if one of another key is added;
and the one that is added is the last of its key and kept. -/
theorem kept_add (accounts : Accounts records catalog warnings places)
    {earlier later : List Metadata} {last record : Metadata}
    (split : records ++ [last] = earlier ++ record :: later) (unnamed : earlier.length ∉ places)
    (differ : ∀ rest, records = earlier ++ record :: rest → record.key ≠ last.key) :
    (catalog.insert last.key last).get? record.key = some record ∧
      ∀ other ∈ later, other.key ≠ record.key := by
  rcases append_singleton_split split with ⟨rfl, rfl, rfl⟩ | ⟨rest, rfl, whole⟩
  · exact ⟨by simp, fun _ member => nomatch member⟩
  · obtain ⟨found, none⟩ := accounts.kept earlier record rest whole unnamed
    have apart := differ rest whole
    refine ⟨by rw [Catalog.get?_insert, if_neg apart, found], fun other member => ?_⟩
    rcases List.mem_append.mp member with among | isLast
    · exact none other among
    · rw [List.mem_singleton.mp isLast]
      exact Ne.symm apart

/-- A record with a key that is new is kept, and nothing is told. -/
theorem add_of_absent (accounts : Accounts records catalog warnings places) {last : Metadata}
    (absent : catalog.get? last.key = none) :
    Accounts (records ++ [last]) (catalog.insert last.key last) warnings places where
  told := accounts.told_add last
  once := accounts.once
  kept earlier record later split unnamed := by
    refine accounts.kept_add split unnamed fun rest whole same => ?_
    obtain ⟨found, -⟩ := accounts.kept earlier record rest whole unnamed
    rw [same, absent] at found
    cases found
  size := by
    rw [List.length_append, Catalog.size_insert_of_absent absent, accounts.size,
      List.length_singleton]
    omega

/-- A record whose key is there replaces the one that is kept, of which this is told. -/
theorem add_of_present (accounts : Accounts records (Catalog.empty.addAll records) warnings places)
    {last previous : Metadata}
    (found : (Catalog.empty.addAll records).get? last.key = some previous) :
    ∃ place, Accounts (records ++ [last])
      ((Catalog.empty.addAll records).insert last.key last)
      (warnings ++ [.duplicateKey previous.key previous.libraryPath last.libraryPath])
      (places ++ [place]) := by
  rcases (Catalog.get?_addAll ..).mp found with isLast | ⟨there, -⟩
  swap
  · cases there
  obtain ⟨earlier, later, whole, named, none⟩ := isLast
  have replaced : Replaced (records ++ [last]) earlier.length previous last := by
    refine @Replaced.intro _ earlier later [] _ _ ?_ named.symm (named ▸ none)
    rw [whole, List.append_assoc, List.cons_append]
  have fresh : earlier.length ∉ places := fun inPlaces => by
    obtain ⟨record, successor, again⟩ := accounts.replaced inPlaces
    rw [whole] at again
    obtain ⟨other, among, same⟩ := again.exists_later
    exact none other among (same.trans named)
  refine ⟨earlier.length, ?_, ?_, fun before record after split unnamed => ?_, ?_⟩
  · exact List.rel_append (accounts.told_add last) (.cons ⟨previous, last, replaced, rfl⟩ .nil)
  · refine List.nodup_append.mpr ⟨accounts.once, List.nodup_singleton _, fun place among => ?_⟩
    intro other isNew same
    rw [same, List.mem_singleton.mp isNew] at among
    exact fresh among
  · rw [List.mem_append, not_or, List.mem_singleton] at unnamed
    refine accounts.kept_add split unnamed.1 fun rest whole' same => ?_
    -- A record of this key that no warning names is the one that has just been named.
    obtain ⟨-, none'⟩ := accounts.kept before record rest whole' unnamed.1
    have samePlace := eq_of_noneLater (whole'.symm.trans whole) same named (same ▸ none') none
    exact unnamed.2 (congrArg List.length samePlace)
  · rw [List.length_append, Catalog.size_insert_of_present found, accounts.size,
      List.length_append, List.length_singleton, List.length_singleton]
    omega

end Accounts

/-! ### What loading reports -/

/-- Adding a record reports the one of its key that is there. -/
theorem Catalog.events_addRecord (catalog : Catalog Metadata) (metadata : Metadata) :
    (catalog.addRecord metadata).events =
      match catalog.get? metadata.key with
      | some previous =>
        [.duplicateKey previous.key previous.libraryPath metadata.libraryPath]
      | none => [] := by
  unfold Catalog.addRecord Catalog.exchange
  cases catalog.get? metadata.key <;> rfl

/-- **Records that are added one after another are accounted for** by what this reports. -/
theorem exists_accounts (records : List Metadata) :
    ∃ places, Accounts records (Catalog.empty.addAll records)
      (duplicateWarnings (records.foldlM Catalog.addRecord Catalog.empty).events) places := by
  induction records using List.reverseRecOn with
  | nil => exact ⟨[], .nil, .nil, by simp, rfl⟩
  | append_singleton records last ih =>
    obtain ⟨places, accounts⟩ := ih
    have step : (records ++ [last]).foldlM Catalog.addRecord Catalog.empty =
        (records.foldlM Catalog.addRecord Catalog.empty).andThen (·.addRecord last) := by
      rw [List.foldlM_append, ← Traced.bind_eq]
      refine congrArg _ (funext fun catalog => ?_)
      rw [List.foldlM_cons]
      exact bind_pure _
    rw [step, Traced.events_andThen, Settings.result_foldlM_addRecord, duplicateWarnings_append,
      Catalog.addAll_append]
    dsimp only
    rw [Catalog.events_addRecord]
    cases found : (Catalog.empty.addAll records).get? last.key with
    | none =>
      have more := accounts.add_of_absent found
      exact ⟨places, by rwa [duplicateWarnings_nil, List.append_nil]⟩
    | some previous =>
      obtain ⟨place, more⟩ := accounts.add_of_present found
      exact ⟨places ++ [place], more⟩

namespace Traced

variable {α β : Type}

/-- Work that goes on warns of no duplicate where neither part does. -/
theorem quiet_andThen {first : Traced α} {next : α → Traced β}
    (here : duplicateWarnings first.events = [])
    (later : ∀ value, duplicateWarnings (next value).events = []) :
    duplicateWarnings (first.andThen next).events = [] := by
  rw [events_andThen, duplicateWarnings_append, here, List.nil_append]
  cases first.result with
  | ok value => exact later value
  | error fault => rfl

theorem quiet_foldlM {step : β → α → Traced β}
    (quiet : ∀ state item, duplicateWarnings (step state item).events = []) (items : List α) :
    ∀ state, duplicateWarnings (items.foldlM step state).events = [] := by
  induction items with
  | nil => exact fun _ => rfl
  | cons item items ih =>
    intro state
    rw [List.foldlM_cons]
    exact quiet_andThen (quiet state item) ih

theorem quiet_forM {step : α → Traced Unit}
    (quiet : ∀ item, duplicateWarnings (step item).events = []) (items : List α) :
    duplicateWarnings (items.forM step).events = [] := by
  induction items with
  | nil => rfl
  | cons item items ih =>
    rw [List.forM_eq_forM] at ih ⊢
    rw [List.forM_cons]
    exact quiet_andThen (quiet item) fun _ => ih

end Traced

namespace Settings

variable {settings : Settings} {tree : FileTree} {root : String}

/-- The choice of candidates warns of no duplicate. -/
theorem quiet_candidates (settings : Settings) (tree : FileTree) (root : String) :
    duplicateWarnings (settings.candidates tree root).events = [] := by
  have quiet (candidates : List String) (name : String) :
      duplicateWarnings (settings.addCandidate candidates name).events = [] := by
    unfold addCandidate
    dsimp only
    split
    · rfl
    · split
      · rfl
      · rfl
  unfold candidates
  dsimp only
  split
  · refine Traced.quiet_andThen (Traced.quiet_foldlM quiet _ _) fun _ => ?_
    refine Traced.quiet_andThen (Traced.quiet_forM (fun entry => ?_) _) fun _ => rfl
    cases entry.isDirectory with
    | ok isDirectory => rfl
    | error fault => rfl
  · rfl

/-- A directory warns as the records do that it adds. -/
theorem duplicateWarnings_loadDirectory {directory : String} {records : List Metadata}
    (adds : Adds settings tree root directory records) (catalog : Catalog Metadata) :
    duplicateWarnings (settings.loadDirectory tree root catalog directory).events =
      duplicateWarnings (records.foldlM Catalog.addRecord catalog).events := by
  unfold loadDirectory
  cases adds with
  | nothing missing =>
    rw [metadataPath] at missing
    rw [if_neg (by simp [missing])]
    rfl
  | records opens encodes stripped =>
    have isFile := (tree.isFile_iff _).mpr ⟨_, opens⟩
    have read := (FileTree.readRecords_ok_iff opens _).mpr encodes
    rw [metadataPath] at isFile read
    rw [(stripped_iff ..).mp stripped, if_pos isFile, read, List.foldlM_map]
    rfl

/-- Directories warn as their records do, one after another. -/
theorem duplicateWarnings_foldlM_of_adds {directories : List String} {found : List (List Metadata)}
    (adds : List.Forall₂ (Adds settings tree root) directories found) :
    ∀ catalog : Catalog Metadata,
      duplicateWarnings (directories.foldlM (settings.loadDirectory tree root) catalog).events =
        duplicateWarnings (found.flatten.foldlM Catalog.addRecord catalog).events := by
  induction adds with
  | nil => exact fun _ => rfl
  | cons here _ ih =>
    intro catalog
    rw [List.flatten_cons, List.foldlM_append, List.foldlM_cons, Traced.bind_eq, Traced.bind_eq,
      Traced.events_andThen, Traced.events_andThen, duplicateWarnings_append,
      duplicateWarnings_append, duplicateWarnings_loadDirectory here,
      result_loadDirectory_of_adds here, result_foldlM_addRecord]
    exact congrArg _ (ih _)

/-- Loading warns of what the records of its candidates warn of. -/
theorem duplicateWarnings_load_of_adds {directories : List String} {found : List (List Metadata)}
    (candidates : (settings.candidates tree root).result = .ok directories)
    (adds : List.Forall₂ (Adds settings tree root) directories found) :
    duplicateWarnings (settings.load tree root).events =
      duplicateWarnings (found.flatten.foldlM Catalog.addRecord Catalog.empty).events := by
  unfold load
  rw [Traced.bind_eq, Traced.events_andThen, duplicateWarnings_append, quiet_candidates, candidates,
    List.nil_append]
  dsimp only
  rw [Traced.bind_eq, Traced.events_andThen, duplicateWarnings_append,
    duplicateWarnings_foldlM_of_adds adds, result_foldlM_of_adds adds]
  exact List.append_nil _

/-- **No record disappears without a warning.** What a release is loaded to is accounted for: as
many records are read as are kept and warned of, and each record is the one that is kept under its
key, or it is named by one warning, with its path and that of the next record of its key. -/
theorem load_accounts {catalog : Catalog Metadata}
    (loads : (settings.load tree root).result = .ok catalog) :
    ∃ directories found, (settings.candidates tree root).result = .ok directories ∧
      List.Forall₂ (Adds settings tree root) directories found ∧
      ∃ places, Accounts found.flatten catalog
        (duplicateWarnings (settings.load tree root).events) places := by
  obtain ⟨directories, found, candidates, adds, rfl⟩ := load_ok_iff.mp loads
  obtain ⟨places, accounts⟩ := exists_accounts found.flatten
  refine ⟨directories, found, candidates, adds, places, ?_⟩
  rwa [duplicateWarnings_load_of_adds candidates adds]

/-- Settings that include a directory which is not among those of the scan. -/
def includesOther : Settings where
  libsDir := "l"
  metadataFile := "m"
  pathPrefix := "l/"
  include_ := ["i"]

/-- An included directory and one of the scan, each with its metadata. -/
def twoDirectories (included scanned : ByteArray) : FileTree where
  nodes := [(["i"], .directory), (["i", "m"], .file included), (["l"], .directory),
    (["l", "x"], .directory), (["l", "x", "m"], .file scanned)]

theorem candidates_twoDirectories (included scanned : ByteArray) :
    (includesOther.candidates (twoDirectories included scanned) "").result = .ok ["i", "l/x"] := by
  cbv

theorem adds_twoDirectories {included scanned : ByteArray} {first second : List Metadata}
    (encodes : Encodes included first) (encodes' : Encodes scanned second) :
    List.Forall₂ (Adds includesOther (twoDirectories included scanned) "") ["i", "l/x"]
      [first.map fun metadata => { metadata with libraryPath := "i" },
        second.map fun metadata => { metadata with libraryPath := "x" }] := by
  have opens : (twoDirectories included scanned).openNode (includesOther.metadataPath "" "i") =
      .ok (.file included) :=
    FileTree.openNode_of_walks rfl rfl (.into (by decide) rfl (.last (by decide) rfl rfl))
  have opens' : (twoDirectories included scanned).openNode (includesOther.metadataPath "" "l/x") =
      .ok (.file scanned) :=
    FileTree.openNode_of_walks rfl rfl
      (.into (by decide) rfl (.into (by decide) rfl (.last (by decide) rfl rfl)))
  refine .cons ?_ (.cons ?_ .nil)
  · exact .records opens encodes (.whole (by decide))
  · exact .records opens' encodes' (.front "x")

/-- Two records of one key. -/
def twiceOneKey : String :=
  "[\x7b\"key\":\"k\"\x7d,\x7b\"key\":\"k\",\"name\":\"n\"\x7d]"

theorem encodes_twiceOneKey :
    Encodes twiceOneKey.toUTF8 [{ key := "k" }, { key := "k", name := "n" }] := by
  have parses : Json.parse twiceOneKey =
      .ok (.array [.object [("key", .string "k")],
        .object [("key", .string "k"), ("name", .string "n")]]) := by
    cbv
  refine .intro rfl parses (.array _) (.cons ?_ (.cons ?_ .nil))
  · cbv
  · cbv

/-- Four records of one key, in two files, are one record that is kept and three warnings. -/
theorem load_accounts_fourOfOneKey :
    ∃ tree catalog, (includesOther.load tree "").result = .ok catalog ∧
      (∃ directories found, (includesOther.candidates tree "").result = .ok directories ∧
        List.Forall₂ (Adds includesOther tree "") directories found ∧
        ∃ places, Accounts found.flatten catalog
          (duplicateWarnings (includesOther.load tree "").events) places) ∧
      catalog.size = 1 ∧ duplicateWarnings (includesOther.load tree "").events =
        [.duplicateKey "k" "i" "i", .duplicateKey "k" "i" "x", .duplicateKey "k" "x" "x"] := by
  have candidates := candidates_twoDirectories twiceOneKey.toUTF8 twiceOneKey.toUTF8
  have adds := adds_twoDirectories encodes_twiceOneKey encodes_twiceOneKey
  have loads := load_ok_iff.mpr ⟨_, _, candidates, adds, rfl⟩
  refine ⟨_, _, loads, load_accounts loads, by decide, ?_⟩
  rw [duplicateWarnings_load_of_adds candidates adds]
  decide

end Settings

end CatalogPages
