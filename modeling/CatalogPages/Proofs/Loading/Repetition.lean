/-
**Which directories are loaded more than once.**

The scan of the libraries' directory adds no directory that is there already, so that a directory is
a candidate as often as the settings include it, and otherwise once at most. Where they include none
twice, every directory is loaded once, and a warning of a duplicate is about two entries of one file
or about two directories.

* `Replaced.append`: a record that is replaced is so within one file or by a record of a later one;
* `RepeatsOnly`: candidates that are repeated as they are included, and not otherwise;
* `RepeatsOnly.add`, `repeatsOnly_foldl`: the names of a scan leave it so;
* `RepeatsOnly.nodup_iff`: no candidate is repeated where nothing is included twice;
* `Meets`: where a record and the one that takes its place come from;
* `meets_of_replaced`: directories of their own do not replace their own records, but for those
  within one file;
* `candidates_repeat`: with these, what is loaded how often.
-/

import CatalogPages.Proofs.Loading.Replacement

namespace CatalogPages

/-- A record that is replaced among those of one file and those that follow: its successor is in the
same file or follows it, or both follow. -/
theorem Replaced.append {first later : List Metadata} {place : Nat} {record successor : Metadata}
    (replaced : Replaced (first ++ later) place record successor) :
    (∃ place, Replaced first place record successor) ∨ (record ∈ first ∧ successor ∈ later) ∨
      ∃ place, Replaced later place record successor := by
  generalize whole : first ++ later = records at replaced
  obtain @⟨earlier, between, after, _, _, rfl, sameKey, nearest⟩ := replaced
  rcases List.append_eq_append_iff.mp whole with ⟨more, rfl, rest⟩ | ⟨more, rfl, rest⟩
  · exact .inr (.inr ⟨_, .intro rest sameKey nearest⟩)
  cases more with
  | nil => exact .inr (.inr ⟨_, @Replaced.intro _ [] _ _ _ _ rest.symm sameKey nearest⟩)
  | cons head more =>
    obtain ⟨rfl, behind⟩ : record = head ∧ between ++ successor :: after = more ++ later :=
      List.cons.inj rest
    -- The record is in the file. Its successor is behind it there, or it follows the file.
    rcases List.append_eq_append_iff.mp behind with ⟨tail, rfl, ends⟩ | ⟨tail, rfl, rfl⟩
    · cases tail with
      | nil =>
        obtain rfl : successor :: after = later := ends
        exact .inr (.inl ⟨by simp, by simp⟩)
      | cons next tail =>
        obtain ⟨rfl, -⟩ := List.cons.inj ends
        exact .inl ⟨_, .intro rfl sameKey nearest⟩
    · exact .inr (.inl ⟨by simp, by simp⟩)

namespace Settings

/-! ### Candidates -/

/-- Candidates among which included directories are repeated as they are included, and no others. -/
structure RepeatsOnly (included candidates : List String) : Prop where
  same : ∀ directory ∈ included, candidates.count directory = included.count directory
  once : ∀ directory, directory ∉ included → candidates.count directory ≤ 1

namespace RepeatsOnly

variable {included candidates : List String}

/-- One name of a scan leaves it so: it is added only where it is new. -/
theorem add (repeats : RepeatsOnly included candidates) (settings : Settings) (name : String) :
    RepeatsOnly included (settings.addedCandidate candidates name) := by
  unfold addedCandidate
  simp only [List.contains_iff_mem]
  split
  · exact repeats
  split
  · exact repeats
  next new =>
    have count (directory : String) :
        (candidates ++ [settings.scanned name]).count directory =
          candidates.count directory + if settings.scanned name = directory then 1 else 0 := by
      rw [List.count_append, List.count_singleton]
      simp only [beq_iff_eq]
    refine ⟨fun directory listed => ?_, fun directory unlisted => ?_⟩
    · have differ : settings.scanned name ≠ directory := by
        rintro rfl
        have some := List.count_pos_iff.mpr listed
        rw [← repeats.same _ listed, List.count_eq_zero.mpr new] at some
        exact Nat.lt_irrefl 0 some
      rw [count, if_neg differ, Nat.add_zero, repeats.same directory listed]
    · rw [count]
      split
      · next isNew => rw [← isNew, List.count_eq_zero.mpr new]
      · exact repeats.once directory unlisted

/-- **No candidate is repeated where nothing is included twice**, and only there. -/
theorem nodup_iff (repeats : RepeatsOnly included candidates) :
    candidates.Nodup ↔ included.Nodup := by
  rw [List.nodup_iff_count_le_one, List.nodup_iff_count_le_one]
  constructor
  · intro single directory
    by_cases listed : directory ∈ included
    · rw [← repeats.same directory listed]
      exact single directory
    · rw [List.count_eq_zero.mpr listed]
      exact Nat.zero_le 1
  · intro single directory
    by_cases listed : directory ∈ included
    · rw [repeats.same directory listed]
      exact single directory
    · exact repeats.once directory listed

end RepeatsOnly

theorem repeatsOnly_foldl (settings : Settings) (included names : List String) :
    ∀ candidates, RepeatsOnly included candidates →
      RepeatsOnly included (names.foldl settings.addedCandidate candidates) := by
  induction names with
  | nil => exact fun _ repeats => repeats
  | cons name names ih => exact fun candidates repeats => ih _ (repeats.add settings name)

variable {settings : Settings} {tree : FileTree} {root : String}

/-- **Candidates are repeated as they are included**, whatever there is in the libraries'
directory. -/
theorem repeatsOnly_of_candidates {directories : List String}
    (candidates : (settings.candidates tree root).result = .ok directories) :
    RepeatsOnly settings.include_ directories := by
  rw [candidates_eq] at candidates
  split at candidates
  · obtain ⟨-, rfl⟩ := read_of_candidatesOf candidates
    exact repeatsOnly_foldl settings _ _ _ ⟨fun _ _ => rfl, fun directory unlisted => by
      rw [List.count_eq_zero.mpr unlisted]
      exact Nat.zero_le 1⟩
  · cases candidates

/-! ### Records -/

/-- Where a record and the next one of its key come from: both from the file of one directory, where
one follows the other, or each from a directory of its own. -/
inductive Meets (settings : Settings) (tree : FileTree) (root : String) (directories : List String)
    (record successor : Metadata) : Prop
  | oneFile {directory : String} {records : List Metadata} {place : Nat}
      (listed : directory ∈ directories) (adds : Adds settings tree root directory records)
      (replaced : Replaced records place record successor)
  | twoDirectories {directory other : String} {records others : List Metadata}
      (listed : directory ∈ directories) (listed' : other ∈ directories)
      (differ : directory ≠ other) (adds : Adds settings tree root directory records)
      (adds' : Adds settings tree root other others) (member : record ∈ records)
      (member' : successor ∈ others)

theorem Meets.cons {directories : List String} {record successor : Metadata}
    (meets : Meets settings tree root directories record successor) (first : String) :
    Meets settings tree root (first :: directories) record successor := by
  cases meets with
  | oneFile listed adds replaced => exact .oneFile (List.mem_cons_of_mem _ listed) adds replaced
  | twoDirectories listed listed' differ adds adds' member member' =>
    exact .twoDirectories (List.mem_cons_of_mem _ listed) (List.mem_cons_of_mem _ listed') differ
      adds adds' member member'

/-- **Directories of their own do not replace their own records**, but for those within one
file. -/
theorem meets_of_replaced {directories : List String} {found : List (List Metadata)}
    (adds : List.Forall₂ (Adds settings tree root) directories found) (distinct : directories.Nodup)
    {place : Nat} {record successor : Metadata}
    (replaced : Replaced found.flatten place record successor) :
    Meets settings tree root directories record successor := by
  induction adds generalizing place with
  | nil =>
    cases replaced with
    | intro split => simp at split
  | @cons directory records directories found here later ih =>
    have ⟨apart, distinct⟩ := List.nodup_cons.mp distinct
    rcases replaced.append with ⟨place, oneFile⟩ | ⟨isHere, follows⟩ | ⟨place, follow⟩
    · exact .oneFile List.mem_cons_self here oneFile
    · obtain ⟨others, among, isThere⟩ := List.mem_flatten.mp follows
      obtain ⟨other, listed, adds⟩ := exists_left_of_forall₂ later among
      have differ : directory ≠ other := fun same => apart (same ▸ listed)
      exact .twoDirectories List.mem_cons_self (List.mem_cons_of_mem _ listed) differ here adds
        isHere isThere
    · exact (ih distinct follow).cons directory

/-- **Directories are loaded as often as they are included, and else once.** A directory that the
settings include is a candidate as often as they do, any other one once at most; so no candidate is
repeated exactly where none is included twice. Then every warning of a duplicate is about two
entries of one file, or about the records of two directories. -/
theorem candidates_repeat (settings : Settings) (tree : FileTree) (root : String) :
    (∀ directories, (settings.candidates tree root).result = .ok directories →
      (∀ directory ∈ settings.include_,
        directories.count directory = settings.include_.count directory) ∧
      (∀ directory, directory ∉ settings.include_ → directories.count directory ≤ 1) ∧
      (directories.Nodup ↔ settings.include_.Nodup)) ∧
    (settings.include_.Nodup → ∀ catalog, (settings.load tree root).result = .ok catalog →
      ∃ directories, (settings.candidates tree root).result = .ok directories ∧
        ∀ warning ∈ duplicateWarnings (settings.load tree root).events,
          ∃ record successor, Meets settings tree root directories record successor ∧
            warning = .duplicateKey record.key record.libraryPath successor.libraryPath) := by
  refine ⟨fun directories candidates => ?_, fun distinct catalog loads => ?_⟩
  · have repeats := repeatsOnly_of_candidates candidates
    exact ⟨repeats.same, repeats.once, repeats.nodup_iff⟩
  · obtain ⟨directories, found, candidates, adds, rfl⟩ := load_ok_iff.mp loads
    refine ⟨directories, candidates, fun warning among => ?_⟩
    have distinct' := (repeatsOnly_of_candidates candidates).nodup_iff.mpr distinct
    obtain ⟨places, accounts⟩ := exists_accounts found.flatten
    rw [duplicateWarnings_load_of_adds candidates adds] at among
    obtain ⟨_, -, record, successor, replaced, named⟩ := exists_left_of_forall₂ accounts.told among
    exact ⟨record, successor, meets_of_replaced adds distinct' replaced, named⟩

/-- Settings that include a directory of the scan twice. -/
def includesTwice : Settings where
  libsDir := "l"
  metadataFile := "m"
  pathPrefix := "l/"
  include_ := ["l/x", "l/x"]

/-- A directory with the metadata of one library. -/
def oneMetadataFile : FileTree where
  nodes := [(["l"], .directory), (["l", "x"], .directory),
    (["l", "x", "m"], .file "\x7b\"key\":\"k\"\x7d".toUTF8)]

theorem adds_oneMetadataFile :
    Adds includesTwice oneMetadataFile "" "l/x" [{ key := "k", libraryPath := "x" }] := by
  have opens : oneMetadataFile.openNode (includesTwice.metadataPath "" "l/x") =
      .ok (.file oneRecord.toUTF8) :=
    FileTree.openNode_of_walks rfl rfl
      (.into (by decide) rfl (.into (by decide) rfl (.last (by decide) rfl rfl)))
  exact .records opens encodes_oneRecord (.front "x")

/-- The directory is a candidate twice, and its one record replaces itself. -/
theorem includesTwice_repeats :
    (includesTwice.candidates oneMetadataFile "").result = .ok ["l/x", "l/x"] ∧
      duplicateWarnings (includesTwice.load oneMetadataFile "").events =
        [.duplicateKey "k" "x" "x"] ∧
      ¬ ∀ (settings : Settings) (tree : FileTree) (root : String) (directories : List String),
        (settings.candidates tree root).result = .ok directories → directories.Nodup := by
  have candidates : (includesTwice.candidates oneMetadataFile "").result = .ok ["l/x", "l/x"] := by
    cbv
  have adds : List.Forall₂ (Adds includesTwice oneMetadataFile "") ["l/x", "l/x"] _ :=
    .cons adds_oneMetadataFile (.cons adds_oneMetadataFile .nil)
  refine ⟨candidates, ?_, fun all => ?_⟩
  · rw [duplicateWarnings_load_of_adds candidates adds]
    decide
  · exact absurd (all _ _ _ _ candidates) (by decide)

end Settings

end CatalogPages
