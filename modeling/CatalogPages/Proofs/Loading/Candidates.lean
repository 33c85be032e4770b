/-
**Which directories are candidates.**

The directories that the settings include come first, as they stand. Those of the scan follow by
name, each of them once, without those that are to be left out or are included already. The order in
which the libraries' directory lists its entries makes no difference.

* `sortByName_perm`: entries with names of their own have one order;
* `result_addCandidate`, `foldl_addedCandidate`: what one name adds to the candidates, and what all
  names of a scan add;
* `Chosen`: the names that a scan is to add;
* `Chosen.mem_iff`: which directories are candidates then;
* `candidates_ok_iff`: the candidates are the included directories and the chosen ones, unless there
  is something that cannot be read.
-/

import CatalogPages.Candidates
import CatalogPages.Proofs.Success
import CatalogPages.Proofs.Text.ByteOrder
import Mathlib

namespace CatalogPages

/-! ### Listings by name -/

theorem perm_sortByName (listing : List ScanEntry) : (sortByName listing).Perm listing :=
  List.mergeSort_perm ..

/-- Entries with names of their own are sorted with their names in ascending order. -/
theorem ascending_sortByName {listing : List ScanEntry}
    (distinct : (listing.map ScanEntry.name).Nodup) :
    (sortByName listing).Pairwise fun first second => first.name < second.name := by
  have sorted : (sortByName listing).Pairwise fun first second =>
      decide (first.name ≤ second.name) = true := by
    refine List.pairwise_mergeSort (fun first second third below above => ?_)
      (fun first second => ?_) listing
    · exact decide_eq_true (String.le_trans (of_decide_eq_true below) (of_decide_eq_true above))
    · rw [← Bool.decide_or]
      exact decide_eq_true (String.le_total _ _)
  have differ : (sortByName listing).Pairwise fun first second => first.name ≠ second.name := by
    have names := (perm_sortByName listing).map ScanEntry.name
    exact List.pairwise_map.mp (names.nodup_iff.mpr distinct)
  exact sorted.imp₂ (fun first second le ne => Std.lt_of_le_of_ne (of_decide_eq_true le) ne) differ

/-- **Entries with names of their own have one order**, however they are listed. -/
theorem sortByName_perm {first second : List ScanEntry} (same : first.Perm second)
    (distinct : (first.map ScanEntry.name).Nodup) : sortByName first = sortByName second := by
  have distinct' : (second.map ScanEntry.name).Nodup :=
    (same.map ScanEntry.name).nodup_iff.mp distinct
  have sorted : (sortByName first).Perm (sortByName second) :=
    (perm_sortByName first).trans (same.trans (perm_sortByName second).symm)
  exact sorted.eq_of_pairwise (fun _ _ _ _ less more => absurd more (String.lt_asymm less))
    (ascending_sortByName distinct) (ascending_sortByName distinct')

theorem mem_directoryNames {entries : List ScanEntry} {name : String} :
    name ∈ directoryNames entries ↔ ⟨name, .ok true⟩ ∈ entries := by
  unfold directoryNames
  rw [List.mem_filterMap]
  constructor
  · rintro ⟨⟨listed, kind⟩, member, named⟩
    match kind, named with
    | .ok true, rfl => exact member
  · exact fun member => ⟨_, member, rfl⟩

/-- The names of directories stand in the order of the entries. -/
theorem directoryNames_sublist (entries : List ScanEntry) :
    (directoryNames entries).Sublist (entries.map ScanEntry.name) := by
  induction entries with
  | nil => exact .slnil
  | cons entry entries ih =>
    obtain ⟨name, kind⟩ := entry
    match kind with
    | .ok true => exact ih.cons_cons name
    | .ok false => exact ih.cons name
    | .error _ => exact ih.cons name

/-- Steps without a value succeed together only where each of them does. -/
theorem result_of_forM_ok {α : Type} {step : α → Traced Unit} {items : List α} {value : PUnit}
    (succeeds : (items.forM step).result = .ok value) :
    ∀ item ∈ items, (step item).result = .ok () := by
  induction items with
  | nil => exact fun _ member => nomatch member
  | cons item items ih =>
    rw [List.forM_eq_forM] at ih succeeds
    rw [List.forM_cons, Traced.bind_eq, Traced.result_andThen] at succeeds
    obtain ⟨_, here, later⟩ := bind_ok_iff.mp succeeds
    intro other member
    rcases List.mem_cons.mp member with rfl | member
    · exact here
    · exact ih later other member

/-- Steps without a value that end with a fault end with that of one of them. -/
theorem exists_of_forM_error {α : Type} {step : α → Traced Unit} {items : List α} {fault : Fault}
    (failed : (items.forM step).result = .error fault) :
    ∃ item ∈ items, (step item).result = .error fault := by
  induction items with
  | nil => cases failed
  | cons item items ih =>
    rw [List.forM_eq_forM] at ih failed
    rw [List.forM_cons, Traced.bind_eq, Traced.result_andThen] at failed
    rcases bind_error_iff.mp failed with here | ⟨_, -, later⟩
    · exact ⟨item, List.mem_cons_self, here⟩
    · obtain ⟨other, listed, fails⟩ := ih later
      exact ⟨other, List.mem_cons_of_mem _ listed, fails⟩

namespace Settings

variable (settings : Settings)

/-! ### What a scan adds -/

/-- A directory of the scan as a candidate. -/
def scanned (name : String) : String :=
  settings.libsDir ++ "/" ++ name

theorem scanned_injective {first second : String}
    (same : settings.scanned first = settings.scanned second) : first = second := by
  unfold scanned at same
  exact String.append_right_inj _ |>.mp same

/-- The candidates when a directory of the scan has been added. -/
def addedCandidate (candidates : List String) (name : String) : List String :=
  if settings.skip.contains (settings.scanned name) then candidates
  else if candidates.contains (settings.scanned name) then candidates
  else candidates ++ [settings.scanned name]

theorem result_addCandidate (candidates : List String) (name : String) :
    (settings.addCandidate candidates name).result =
      .ok (settings.addedCandidate candidates name) := by
  unfold addCandidate addedCandidate scanned
  dsimp only
  split
  · rfl
  · split
    · rfl
    · rfl

/-- Names of their own are added in order, but for those that are left out or there already. -/
theorem foldl_addedCandidate {names : List String} (distinct : names.Nodup) :
    ∀ candidates, names.foldl settings.addedCandidate candidates =
      candidates ++ (names.filter fun name => settings.scanned name ∉ settings.skip ∧
        settings.scanned name ∉ candidates).map settings.scanned := by
  induction names with
  | nil => exact fun candidates => (List.append_nil candidates).symm
  | cons name names ih =>
    intro candidates
    have ⟨apart, distinct⟩ := List.nodup_cons.mp distinct
    rw [List.foldl_cons, ih distinct]
    unfold addedCandidate
    simp only [List.contains_iff_mem]
    by_cases skipped : settings.scanned name ∈ settings.skip
    · rw [if_pos skipped, List.filter_cons_of_neg (by simp [skipped])]
    · rw [if_neg skipped]
      by_cases there : settings.scanned name ∈ candidates
      · rw [if_pos there, List.filter_cons_of_neg (by simp [there])]
      · rw [if_neg there, List.filter_cons_of_pos (by simp [skipped, there]), List.map_cons,
          List.append_assoc, List.singleton_append]
        -- A later name differs from this one, so that this one is not in its way.
        refine congrArg (candidates ++ settings.scanned name :: List.map _ ·) ?_
        refine List.filter_congr fun other later => ?_
        have differ : settings.scanned other ≠ settings.scanned name := fun same =>
          apart (settings.scanned_injective same ▸ later)
        simp [differ]

/-- The names that a scan adds to the candidates, in the order of their bytes: those of directories
that are neither to be left out nor included. -/
structure Chosen (listing : List ScanEntry) (names : List String) : Prop where
  ascending : names.Pairwise fun first second => Text.bytes first < Text.bytes second
  complete : ∀ name, name ∈ names ↔ ⟨name, .ok true⟩ ∈ listing ∧
    settings.scanned name ∉ settings.skip ∧ settings.scanned name ∉ settings.include_

variable {settings}

/-- There is one such list of names. -/
theorem Chosen.unique {listing : List ScanEntry} {names others : List String}
    (chosen : settings.Chosen listing names) (another : settings.Chosen listing others) :
    names = others := by
  have ascending {names : List String} (chosen : settings.Chosen listing names) :
      names.Pairwise fun first second => first < second :=
    chosen.ascending.imp Text.bytes_lt_iff.mp
  exact (ascending chosen).eq_of_mem_iff (ascending another) fun name =>
    (chosen.complete name).trans (another.complete name).symm

/-- What is included is a candidate in any case, a directory of the scan unless it is left out. -/
theorem Chosen.mem_iff {listing : List ScanEntry} {names : List String}
    (chosen : settings.Chosen listing names) (directory : String) :
    directory ∈ settings.include_ ++ names.map settings.scanned ↔
      directory ∈ settings.include_ ∨ directory ∉ settings.skip ∧
        ∃ name, ⟨name, .ok true⟩ ∈ listing ∧ directory = settings.scanned name := by
  rw [List.mem_append, List.mem_map]
  constructor
  · rintro (included | ⟨name, among, rfl⟩)
    · exact .inl included
    · obtain ⟨listed, kept, -⟩ := (chosen.complete name).mp among
      exact .inr ⟨kept, name, listed, rfl⟩
  · rintro (included | ⟨kept, name, listed, rfl⟩)
    · exact .inl included
    · by_cases included : settings.scanned name ∈ settings.include_
      · exact .inl included
      · exact .inr ⟨name, (chosen.complete name).mpr ⟨listed, kept, included⟩, rfl⟩

variable (settings)

/-- The names that are found by going through a listing are chosen. -/
theorem chosen_directoryNames {listing : List ScanEntry}
    (distinct : (listing.map ScanEntry.name).Nodup) :
    settings.Chosen listing ((directoryNames (sortByName listing)).filter fun name =>
      settings.scanned name ∉ settings.skip ∧ settings.scanned name ∉ settings.include_) where
  ascending := by
    have names := List.pairwise_map.mpr (ascending_sortByName distinct)
    have sorted := names.sublist (directoryNames_sublist _)
    exact (sorted.imp Text.bytes_lt_iff.mpr).sublist List.filter_sublist
  complete name := by
    rw [List.mem_filter, mem_directoryNames, decide_eq_true_iff]
    exact and_congr_left' (perm_sortByName listing).mem_iff

/-! ### Candidates -/

/-- Where the libraries' directories are. -/
def libsPath (root : String) : String :=
  Path.join root settings.libsDir

variable {settings}

/-- Only an entry that cannot be read ends the choice of candidates. -/
theorem unread_of_candidatesOf {libs : String} {listing : List ScanEntry} {fault : Fault}
    (failed : (settings.candidatesOf libs listing).result = .error fault) :
    ∃ entry ∈ listing, ∃ cause, entry.isDirectory = .error cause ∧
      fault = scanFault libs entry.name cause := by
  unfold candidatesOf at failed
  dsimp only at failed
  have adds := Traced.result_foldlM settings.result_addCandidate
    (directoryNames (sortByName listing)) settings.include_
  rw [Traced.bind_eq, Traced.result_andThen, adds] at failed
  rcases bind_error_iff.mp failed with none | ⟨_, -, failed⟩
  · cases none
  rw [Traced.bind_eq, Traced.result_andThen] at failed
  rcases bind_error_iff.mp failed with unread | ⟨_, -, failed⟩
  · obtain ⟨entry, among, fails⟩ := exists_of_forM_error unread
    have listed := (perm_sortByName listing).mem_iff.mp among
    cases kind : entry.isDirectory with
    | ok isDirectory =>
      rw [kind] at fails
      cases fails
    | error cause =>
      rw [kind] at fails
      cases fails
      exact ⟨entry, listed, cause, kind, rfl⟩
  · cases failed

/-- Candidates that are chosen are those that the directories of a listing add to the included ones,
and every entry has been read. -/
theorem read_of_candidatesOf {libs : String} {listing : List ScanEntry} {candidates : List String}
    (chosen : (settings.candidatesOf libs listing).result = .ok candidates) :
    (∀ entry ∈ listing, ∃ isDirectory, entry.isDirectory = .ok isDirectory) ∧
      candidates =
        (directoryNames (sortByName listing)).foldl settings.addedCandidate settings.include_ := by
  unfold candidatesOf at chosen
  dsimp only at chosen
  have adds := Traced.result_foldlM settings.result_addCandidate
    (directoryNames (sortByName listing)) settings.include_
  rw [Traced.bind_eq, Traced.result_andThen, adds] at chosen
  obtain ⟨_, added, chosen⟩ := bind_ok_iff.mp chosen
  cases added
  rw [Traced.bind_eq, Traced.result_andThen] at chosen
  obtain ⟨_, allRead, chosen⟩ := bind_ok_iff.mp chosen
  cases chosen
  refine ⟨fun entry listed => ?_, rfl⟩
  have read := result_of_forM_ok allRead entry ((perm_sortByName listing).mem_iff.mpr listed)
  cases kind : entry.isDirectory with
  | ok isDirectory => exact ⟨isDirectory, rfl⟩
  | error cause =>
    rw [kind] at read
    cases read

/-- The choice of candidates fails exactly where an entry cannot be read. -/
theorem candidatesOf_error_iff (libs : String) (listing : List ScanEntry) :
    (∃ fault, (settings.candidatesOf libs listing).result = .error fault) ↔
      ∃ entry ∈ listing, ∃ cause, entry.isDirectory = .error cause := by
  constructor
  · rintro ⟨fault, failed⟩
    obtain ⟨entry, listed, cause, unread, -⟩ := unread_of_candidatesOf failed
    exact ⟨entry, listed, cause, unread⟩
  · rintro ⟨entry, listed, cause, unread⟩
    cases result : (settings.candidatesOf libs listing).result with
    | error fault => exact ⟨fault, rfl⟩
    | ok candidates =>
      obtain ⟨isDirectory, read⟩ := (read_of_candidatesOf result).1 entry listed
      cases unread.symm.trans read

/-- **Candidates are the included directories and the chosen ones**, where all entries are read. -/
theorem candidatesOf_ok_iff {listing : List ScanEntry}
    (distinct : (listing.map ScanEntry.name).Nodup) (libs : String) (candidates : List String) :
    (settings.candidatesOf libs listing).result = .ok candidates ↔
      (∀ entry ∈ listing, ∃ isDirectory, entry.isDirectory = .ok isDirectory) ∧
        ∃ names, settings.Chosen listing names ∧
          candidates = settings.include_ ++ names.map settings.scanned := by
  have found := settings.chosen_directoryNames distinct
  have namesDistinct : (directoryNames (sortByName listing)).Nodup := by
    have names := ((perm_sortByName listing).map ScanEntry.name).nodup_iff.mpr distinct
    exact names.sublist (directoryNames_sublist _)
  have adds := settings.foldl_addedCandidate namesDistinct settings.include_
  constructor
  · intro chosen
    obtain ⟨allRead, rfl⟩ := read_of_candidatesOf chosen
    exact ⟨allRead, _, found, adds⟩
  · rintro ⟨allRead, names, chosen, rfl⟩
    cases result : (settings.candidatesOf libs listing).result with
    | ok candidates =>
      rw [(read_of_candidatesOf result).2, adds, chosen.unique found]
    | error fault =>
      obtain ⟨entry, listed, cause, unread⟩ :=
        (candidatesOf_error_iff libs listing).mp ⟨fault, result⟩
      obtain ⟨isDirectory, read⟩ := allRead entry listed
      cases unread.symm.trans read

/-- The choice does not depend on the order of the entries, nor do the events on the way to it. -/
theorem candidatesOf_perm {first second : List ScanEntry} (same : first.Perm second)
    (distinct : (first.map ScanEntry.name).Nodup) (libs : String) :
    settings.candidatesOf libs first = settings.candidatesOf libs second := by
  unfold candidatesOf
  rw [sortByName_perm same distinct]

/-- Candidates are chosen from the libraries' directory, if it is one. -/
theorem candidates_eq (settings : Settings) (tree : FileTree) (root : String) :
    settings.candidates tree root =
      if tree.isDirectory (settings.libsPath root) then
        settings.candidatesOf (settings.libsPath root) (tree.listing (settings.libsPath root))
      else
        Traced.fail
          (.of "libraries directory not found" [("directory", settings.libsPath root)]) :=
  rfl

theorem candidates_ok_iff {tree : FileTree} {root : String}
    (distinct : ((tree.listing (settings.libsPath root)).map ScanEntry.name).Nodup)
    (candidates : List String) :
    (settings.candidates tree root).result = .ok candidates ↔
      tree.isDirectory (settings.libsPath root) = true ∧
      (∀ entry ∈ tree.listing (settings.libsPath root),
        ∃ isDirectory, entry.isDirectory = .ok isDirectory) ∧
      ∃ names, settings.Chosen (tree.listing (settings.libsPath root)) names ∧
        candidates = settings.include_ ++ names.map settings.scanned := by
  rw [candidates_eq]
  by_cases isDirectory : tree.isDirectory (settings.libsPath root) = true
  · rw [if_pos isDirectory, candidatesOf_ok_iff distinct, and_iff_right isDirectory]
  · simp [isDirectory]

/-- **The choice of candidates is exact.** It gives the included directories as they stand, and then
the directories of the scan that are neither left out nor included, in the order of the bytes of
their names. So an included directory is a candidate in any case, another one only if it is one of
the scan and not left out, and nothing hangs on the order in which entries are listed. The choice
fails where the libraries' directory is none, or has an entry that cannot be read. -/
theorem candidates_exact (settings : Settings) (tree : FileTree) (root : String)
    (distinct : ((tree.listing (settings.libsPath root)).map ScanEntry.name).Nodup) :
    let libs := settings.libsPath root
    let listing := tree.listing libs
    (∀ candidates, (settings.candidates tree root).result = .ok candidates ↔
      tree.isDirectory libs = true ∧
      (∀ entry ∈ listing, ∃ isDirectory, entry.isDirectory = .ok isDirectory) ∧
      ∃ names, settings.Chosen listing names ∧
        candidates = settings.include_ ++ names.map settings.scanned) ∧
    ((∃ fault, (settings.candidates tree root).result = .error fault) ↔
      tree.isDirectory libs = false ∨
        ∃ entry ∈ listing, ∃ cause, entry.isDirectory = .error cause) ∧
    (∀ candidates, (settings.candidates tree root).result = .ok candidates → ∀ directory,
      directory ∈ candidates ↔ directory ∈ settings.include_ ∨
        directory ∉ settings.skip ∧
          ∃ name, ⟨name, .ok true⟩ ∈ listing ∧ directory = settings.scanned name) ∧
    ∀ other : FileTree, other.isDirectory libs = tree.isDirectory libs →
      (other.listing libs).Perm listing →
      settings.candidates other root = settings.candidates tree root := by
  intro libs listing
  refine ⟨candidates_ok_iff distinct, ?_, fun candidates result directory => ?_,
    fun other sameKind same => ?_⟩
  · rw [candidates_eq]
    by_cases isDirectory : tree.isDirectory libs = true
    · rw [if_pos isDirectory, candidatesOf_error_iff]
      simp [isDirectory, listing, libs]
    · simp [isDirectory, libs]
  · obtain ⟨-, -, names, chosen, rfl⟩ := (candidates_ok_iff distinct candidates).mp result
    exact chosen.mem_iff directory
  · rw [candidates_eq, candidates_eq, sameKind, candidatesOf_perm same]
    exact (same.map ScanEntry.name).nodup_iff.mpr distinct

/-- Settings that include a directory which is left out of the scan, and one that there is not. -/
def includesSkipped : Settings where
  libsDir := "l"
  skip := ["l/b", "l/c"]
  include_ := ["l/b", "gone"]

/-- Directories, a file and a link to a directory, listed in no order of their names. -/
def unordered : FileTree where
  nodes := [(["l"], .directory), (["l", "d"], .directory), (["l", "b"], .directory),
    (["l", "f"], .file ByteArray.empty), (["l", "c"], .directory), (["l", "a"], .link "d")]

/-- What is included comes first, and the link to a directory before the directory itself. -/
theorem candidates_exact_unordered :
    ((unordered.listing (includesSkipped.libsPath "")).map ScanEntry.name).Nodup ∧
      (includesSkipped.candidates unordered "").result = .ok ["l/b", "gone", "l/a", "l/d"] := by
  have listing : unordered.listing (includesSkipped.libsPath "") =
      [⟨"d", .ok true⟩, ⟨"b", .ok true⟩, ⟨"f", .ok false⟩, ⟨"c", .ok true⟩, ⟨"a", .ok true⟩] := by
    cbv
  have distinct : ((unordered.listing (includesSkipped.libsPath "")).map ScanEntry.name).Nodup := by
    rw [listing]
    decide
  have chosen : includesSkipped.Chosen (unordered.listing (includesSkipped.libsPath ""))
      ["a", "d"] := by
    refine ⟨by decide, fun name => ?_⟩
    rw [listing]
    constructor
    · intro among
      have cases : name = "a" ∨ name = "d" := by simpa using among
      rcases cases with rfl | rfl
      · exact ⟨by simp, by decide, by decide⟩
      · exact ⟨by simp, by decide, by decide⟩
    · rintro ⟨listed, kept, -⟩
      have cases : name = "d" ∨ name = "b" ∨ name = "c" ∨ name = "a" := by simpa using listed
      rcases cases with rfl | rfl | rfl | rfl
      · decide
      · exact absurd (show includesSkipped.scanned "b" ∈ includesSkipped.skip by decide) kept
      · exact absurd (show includesSkipped.scanned "c" ∈ includesSkipped.skip by decide) kept
      · decide
  have allRead : ∀ entry ∈ unordered.listing (includesSkipped.libsPath ""),
      ∃ isDirectory, entry.isDirectory = .ok isDirectory := by
    rw [listing]
    simp
  obtain ⟨result, -⟩ := candidates_exact includesSkipped unordered "" distinct
  exact ⟨distinct, (result _).mpr ⟨by cbv, allRead, ["a", "d"], chosen, rfl⟩⟩

end Settings

end CatalogPages
