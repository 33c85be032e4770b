/-
**Where the link to a documentation leads.**

A link is joined of a library's path and what its metadata says about the documentation. A joined
link that names a directory, by a slash at its end, is to be completed to the index of the
directory; one that names a file stays as it is.

* `Correction.lastGiven_eq_none`: a field that no correction gives is left as it is;
* `Completed`: a joined link, and the link that it is to be completed to;
* `completed_documentationLink`: this is how links are made, unless the documentation is an empty
  text;
* `endsInSlash_documentationLink_iff`: and no other link is left with a slash at its end;
* `normalize_links`: with these, the links of a catalog.
-/

import CatalogPages.Proofs.Catalog.Correction

namespace CatalogPages

/-- No correction of a key gives a field, and so none gives it last. -/
theorem Correction.lastGiven_eq_none {β : Type} {field : Correction → Option β} {key : String}
    {corrections : List Correction}
    (apart : ∀ correction ∈ corrections, correction.key = key → field correction = none) :
    lastGiven field key corrections = none := by
  unfold lastGiven
  rw [List.findSome?_eq_none_iff]
  intro correction member
  unfold given
  split
  · next same => exact apart correction (List.mem_reverse.mp member) same
  · rfl

open Correction (lastGiven lastGiven_eq_none)

/-! ### Links -/

/-- A text that names a directory. -/
def EndsInSlash (text : String) : Prop :=
  ∃ front, text = front ++ "/"

/-- A joined link, and the link that it is completed to: with the index of the directory that it
names, if it names one. -/
inductive Completed (joined : String) : String → Prop
  | directory (slash : EndsInSlash joined) : Completed joined (joined ++ "index.html")
  | file (noSlash : ¬ EndsInSlash joined) : Completed joined joined

theorem endsInSlash_iff (text : String) :
    EndsInSlash text ↔ text.toList.getLast? = some '/' := by
  constructor
  · rintro ⟨front, rfl⟩
    simp
  · intro last
    obtain ⟨front, whole⟩ := List.getLast?_eq_some_iff.mp last
    refine ⟨String.ofList front, ?_⟩
    rw [← String.toList_inj, String.toList_append, String.toList_ofList]
    exact whole

/-- What is joined ends as its last part does, if there is anything in it. -/
theorem endsInSlash_append_iff (front : String) {text : String} (nonempty : text ≠ "") :
    EndsInSlash (front ++ text) ↔ EndsInSlash text := by
  have some : text.toList ≠ [] := fun empty => nonempty (String.toList_eq_nil_iff.mp empty)
  rw [endsInSlash_iff, endsInSlash_iff, String.toList_append, List.getLast?_append_of_ne_nil _ some]

/-- **A joined link is completed**, unless the documentation is an empty text. -/
theorem completed_documentationLink (libraryPath : String) {documentation : String}
    (nonempty : documentation ≠ "") :
    Completed (libraryPath ++ "/" ++ documentation)
      (documentationLink libraryPath (some documentation)) := by
  have ends := endsInSlash_append_iff (libraryPath ++ "/") nonempty
  rw [endsInSlash_iff documentation] at ends
  unfold documentationLink
  dsimp only
  split
  · next slash => exact .directory (ends.mpr slash)
  · next noSlash => exact .file fun slash => noSlash (ends.mp slash)

/-- An empty documentation leaves the directory of the library. -/
theorem documentationLink_empty (libraryPath : String) :
    documentationLink libraryPath (some "") = libraryPath ++ "/" := by
  unfold documentationLink
  exact String.append_empty

theorem not_endsInSlash_index (front : String) : ¬ EndsInSlash (front ++ "index.html") := by
  rw [endsInSlash_append_iff front (by decide), endsInSlash_iff]
  decide

theorem Completed.not_endsInSlash {joined link : String} (completed : Completed joined link) :
    ¬ EndsInSlash link := by
  cases completed with
  | directory => exact not_endsInSlash_index joined
  | file noSlash => exact noSlash

/-- **No link ends in a slash** but that of an empty documentation. -/
theorem endsInSlash_documentationLink_iff (libraryPath : String) (documentation : Option String) :
    EndsInSlash (documentationLink libraryPath documentation) ↔ documentation = some "" := by
  cases documentation with
  | none =>
    have index : documentationLink libraryPath none = libraryPath ++ "/" ++ "index.html" := by
      rw [String.append_assoc]
      rfl
    simp [index, not_endsInSlash_index]
  | some documentation =>
    by_cases empty : documentation = ""
    · subst empty
      rw [documentationLink_empty]
      exact ⟨fun _ => rfl, fun _ => ⟨libraryPath, rfl⟩⟩
    · have completed := completed_documentationLink libraryPath empty
      simp [completed.not_endsInSlash, empty]

/-- Metadata with a documentation that is an empty text. -/
def emptyDocumentation : Metadata where
  key := "foo"
  documentation := some ""
  libraryPath := "foo"

/-- Its link stays at the directory of the library, instead of leading on to the index. -/
theorem emptyDocumentation_not_completed :
    ¬ ∀ (metadata : Metadata) (documentation : String),
      metadata.documentation = some documentation →
      Completed (metadata.libraryPath ++ "/" ++ documentation)
        metadata.normalize.documentationLink := by
  intro all
  have slash : EndsInSlash emptyDocumentation.normalize.documentationLink :=
    (endsInSlash_documentationLink_iff "foo" (some "")).mpr rfl
  exact (all emptyDocumentation "" rfl).not_endsInSlash slash

namespace Catalog

/-- **Links lead to a file, unless the documentation is an empty text.** Where no correction gives a
link, metadata without a documentation is linked to the index of the library's directory, and
otherwise the link is joined and completed. The one exception is a documentation that is there but
empty: its link is the directory of the library, and the only one with a slash at its end. -/
theorem normalize_links (metadata : Catalog Metadata) (corrections : List Correction) :
    ∃ catalog, (metadata.normalize corrections).result = .ok catalog ∧
      ∀ key record, metadata.get? key = some record →
        (∀ correction ∈ corrections, correction.key = key → correction.link = none) →
        ∃ library, catalog.get? key = some library ∧
          (record.documentation = none →
            library.documentationLink = record.libraryPath ++ "/index.html") ∧
          (∀ documentation, record.documentation = some documentation → documentation ≠ "" →
            Completed (record.libraryPath ++ "/" ++ documentation) library.documentationLink) ∧
          (record.documentation = some "" →
            library.documentationLink = record.libraryPath ++ "/") ∧
          (EndsInSlash library.documentationLink ↔ record.documentation = some "") := by
  refine ⟨_, metadata.result_normalize corrections, fun key record found apart => ?_⟩
  have link : (record.corrected key corrections).documentationLink =
      documentationLink record.libraryPath record.documentation := by
    show (lastGiven Correction.link key corrections).getD _ = _
    rw [lastGiven_eq_none apart, Option.getD_none]
  refine ⟨record.corrected key corrections, by rw [get?_corrected, found]; rfl, ?_⟩
  rw [link]
  refine ⟨fun absent => ?_, fun documentation given nonempty => ?_, fun empty => ?_, ?_⟩
  · rw [absent]
    rfl
  · rw [given]
    exact completed_documentationLink record.libraryPath nonempty
  · rw [empty, documentationLink_empty]
  · exact endsInSlash_documentationLink_iff record.libraryPath record.documentation

end Catalog

end CatalogPages
