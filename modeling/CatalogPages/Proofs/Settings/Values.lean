/-
**What the values of a settings file mean.**

Each of the things that a settings file holds is written in its own way. The entries of lists are
tables of a few texts, or the lists of those texts; a kind of release is a name; further variables
are a table of anything.

* `Toml.Value.HasTexts`, `Correction.WrittenAs`: tables of texts;
* `Release.NamedBy`: the name of a kind of release;
* `Toml.Value.HasMembers`: tables of anything, by what is found in them;
* `Category.ofToml_iff` and the other lemmas of this name: this is what is decoded.
-/

import CatalogPages.Proofs.Catalog.Order
import CatalogPages.Proofs.Schema.Records
import CatalogPages.Proofs.Schema.Texts
import CatalogPages.Settings

namespace CatalogPages

variable {α β : Type}

/-! ### Fields that must be there, and fields that may be absent -/

theorem resolves_required_iff {image : α → β} {document? : Option β} {value : α} :
    Resolves (fun document value => document = image value) none document? value ↔
      document? = some (image value) := by
  cases document? with
  | none => simp [resolves_none_iff]
  | some document => rw [resolves_some_iff, Option.some_inj]

/-- A value that may be absent is decoded where there is one. -/
theorem Schema.ofToml_optional_iff {inner : Schema α} {document : Toml.Value} {value : Option α} :
    (Schema.optional inner).ofToml document = some value ↔
      ∃ found, inner.ofToml document = some found ∧ value = some found := by
  refine Option.map_eq_some_iff.trans (exists_congr fun found => and_congr_right fun _ => ?_)
  exact eq_comm

theorem resolves_optional_iff {image : α → β} {document? : Option β} {value : Option α} :
    Resolves (fun document value => ∃ found, document = image found ∧ value = some found)
        (some none) document? value ↔ document? = value.map image := by
  cases document? with
  | none => cases value <;> simp [resolves_none_iff]
  | some document => cases value <;> simp [resolves_some_iff]

/-! ### Two texts -/

/-- A table or list with texts in its two fields. -/
structure Toml.Value.HasTexts (value : Toml.Value) (first second one two : String) : Prop where
  first : value.field? first 0 = some (.text one)
  second : value.field? second 1 = some (.text two)

/-- The values that are a record of two texts. -/
theorem Schema.ofToml_twoTexts_iff {title first second : String}
    {build : Filled [String, String] → α} {one two : α → String}
    (fields : ∀ left right, one (build (left, right, ())) = left ∧
      two (build (left, right, ())) = right)
    (whole : ∀ result, build (one result, two result, ()) = result) {value : Toml.Value}
    {result : α} :
    (Schema.record title (.field first .text none (.field second .text none .done)) build).ofToml
        value = some result ↔ value.HasTexts first second (one result) (two result) := by
  refine Schema.ofToml_record_iff.trans ?_
  constructor
  · rintro ⟨-, ⟨left, right, ⟨⟩⟩, taken, rfl⟩
    simp only [Fields.TakenFrom, Schema.ofToml_text_iff, resolves_required_iff] at taken
    rw [(fields left right).1, (fields left right).2]
    exact ⟨taken.1, taken.2.1⟩
  · rintro ⟨here, there⟩
    refine ⟨Toml.Value.hasFields_of_field? here, ⟨one result, two result, ()⟩, ?_, whole result⟩
    simp only [Fields.TakenFrom, Schema.ofToml_text_iff, resolves_required_iff]
    exact ⟨here, there, trivial⟩

theorem Category.ofToml_iff {value : Toml.Value} {category : Category} :
    Category.schema.ofToml value = some category ↔
      value.HasTexts "key" "title" category.key category.title :=
  Schema.ofToml_twoTexts_iff (fun _ _ => ⟨rfl, rfl⟩) fun _ => rfl

theorem Charset.ofToml_iff {value : Toml.Value} {charset : Charset} :
    Charset.schema.ofToml value = some charset ↔
      value.HasTexts "from" "to" charset.before charset.after :=
  Schema.ofToml_twoTexts_iff (fun _ _ => ⟨rfl, rfl⟩) fun _ => rfl

theorem Fixup.ofToml_iff {value : Toml.Value} {fixup : Fixup} :
    Fixup.schema.ofToml value = some fixup ↔
      value.HasTexts "find" "replace" fixup.find fixup.replace :=
  Schema.ofToml_twoTexts_iff (fun _ _ => ⟨rfl, rfl⟩) fun _ => rfl

/-! ### Corrections -/

/-- A value that says which library to correct, and what is to be replaced. -/
structure Correction.WrittenAs (value : Toml.Value) (correction : Correction) : Prop where
  key : value.field? "key" 0 = some (.text correction.key)
  name : value.field? "name" 1 = correction.name.map .text
  category :
    value.field? "category" 2 = correction.category.map fun names => .array (names.map .text)
  link : value.field? "link" 3 = correction.link.map .text
  description : value.field? "description" 4 = correction.description.map .text

theorem Correction.ofToml_iff {value : Toml.Value} {correction : Correction} :
    Correction.schema.ofToml value = some correction ↔ correction.WrittenAs value := by
  refine Schema.ofToml_record_iff.trans ?_
  constructor
  · rintro ⟨-, ⟨key, name, category, link, description, ⟨⟩⟩, taken, rfl⟩
    simp only [Fields.TakenFrom, Schema.ofToml_optional_iff, Schema.ofToml_text_iff,
      Schema.ofToml_texts_iff, resolves_required_iff, resolves_optional_iff] at taken
    obtain ⟨key, name, category, link, description, -⟩ := taken
    exact ⟨key, name, category, link, description⟩
  · rintro ⟨key, name, category, link, description⟩
    refine ⟨Toml.Value.hasFields_of_field? key, ⟨correction.key, correction.name,
      correction.category, correction.link, correction.description, ()⟩, ?_, rfl⟩
    simp only [Fields.TakenFrom, Schema.ofToml_optional_iff, Schema.ofToml_text_iff,
      Schema.ofToml_texts_iff, resolves_required_iff, resolves_optional_iff]
    exact ⟨key, name, category, link, description, trivial⟩

/-! ### Kinds of a release -/

/-- A value that names a kind of release: its name, or a table with nothing under that name, which
comes first in the table, and in braces alone. -/
inductive Release.NamedBy (release : Release) : Toml.Value → Prop
  | text : NamedBy release (.text release.name)
  | entry {inlined : Bool} {nothing : Toml.Value} {more : List (String × Toml.Value)}
      (empty : nothing.isEmpty = true) (alone : inlined = true → more = []) :
      NamedBy release (.table inlined ((release.name, nothing) :: more))

theorem Release.lookup_name_iff {name : String} {release : Release} :
    ([Release.stable, .development].map fun release => (release.name, release)).lookup name =
        some release ↔ name = release.name := by
  show [("stable", Release.stable), ("development", .development)].lookup name = _ ↔ _
  by_cases stable : name = "stable"
  · subst stable
    cases release <;> decide
  · rw [Keyed.lookup_cons_of_ne stable]
    by_cases development : name = "development"
    · subst development
      cases release <;> decide
    · rw [Keyed.lookup_cons_of_ne development]
      cases release <;> simp [Release.name, stable, development]

/-- What bars a table from being a choice. -/
theorem barred_eq_false_iff {inlined : Bool} {nothing : Toml.Value}
    {more : List (String × Toml.Value)} :
    ((inlined && !more.isEmpty) || !nothing.isEmpty) = false ↔
      nothing.isEmpty = true ∧ (inlined = true → more = []) := by
  cases inlined <;> simp [and_comm]

theorem Release.ofToml_iff {value : Toml.Value} {release : Release} :
    Release.schema.ofToml value = some release ↔ release.NamedBy value := by
  rw [Release.schema, Schema.ofToml]
  constructor
  · intro decodes
    cases value with
    | text name =>
      obtain rfl := Release.lookup_name_iff.mp decodes
      exact .text
    | table inlined entries =>
      cases entries with
      | nil => cases decodes
      | cons entry more =>
        obtain ⟨name, nothing⟩ := entry
        rw [Toml.Value.choice?] at decodes
        split at decodes
        · cases decodes
        · next free =>
          obtain ⟨empty, alone⟩ := barred_eq_false_iff.mp (Bool.eq_false_iff.mpr free)
          obtain rfl := Release.lookup_name_iff.mp decodes
          exact .entry empty alone
    | _ => cases decodes
  · intro named
    cases named with
    | text => exact Release.lookup_name_iff.mpr rfl
    | entry empty alone =>
      rw [Toml.Value.choice?, barred_eq_false_iff.mpr ⟨empty, alone⟩]
      exact Release.lookup_name_iff.mpr rfl

/-! ### Tables of anything -/

/-- The values of a table that has so many entries, in key order. -/
structure Toml.Value.HasMembers (value : Toml.Value) (members : List (String × Json)) : Prop where
  ascending : Keyed.Ascending members
  same : ∃ entries, value.entries? = some entries ∧
    ∀ name, members.lookup name = (entries.lookup name).map Toml.Value.toJson

namespace Toml

theorem ascending_toJsonMembers (entries : List (String × Value)) :
    Keyed.Ascending (toJsonMembers entries) := by
  induction entries with
  | nil => exact Keyed.ascending_nil
  | cons entry entries ih =>
    rw [toJsonMembers]
    exact ih.put _ _

theorem lookup_toJsonMembers (name : String) (entries : List (String × Value)) :
    (toJsonMembers entries).lookup name = (entries.lookup name).map Value.toJson := by
  induction entries with
  | nil => rfl
  | cons entry entries ih =>
    obtain ⟨key, value⟩ := entry
    rw [toJsonMembers, Keyed.lookup_put]
    split
    · next same => rw [same, Keyed.lookup_cons_of_eq, Option.map_some]
    · next differ => rw [Keyed.lookup_cons_of_ne differ, ih]

end Toml

theorem Schema.ofToml_table_iff {value : Toml.Value} {members : List (String × Json)} :
    Schema.table.ofToml value = some members ↔ value.HasMembers members := by
  refine Option.map_eq_some_iff.trans ?_
  constructor
  · rintro ⟨entries, holds, rfl⟩
    exact ⟨Toml.ascending_toJsonMembers entries, entries, holds,
      fun name => Toml.lookup_toJsonMembers name entries⟩
  · rintro ⟨ascending, entries, holds, same⟩
    refine ⟨entries, holds, (Toml.ascending_toJsonMembers entries).ext ascending fun name => ?_⟩
    rw [Toml.lookup_toJsonMembers, same]

end CatalogPages
