/-
**What a settings file gives to each setting.**

Every setting has a key of its own, and is the meaning of what stands under that key. Where nothing
stands there, it is the standard one. So a file that changes what stands under one key changes one
setting, and keys that no setting has change nothing. A file with a value that means nothing for the
setting of its key gives no settings at all.

* `Setting`: the settings, with their keys and contents;
* `Setting.Means`: what a value means for a setting;
* `Settings.GivenBy`: settings that entries give, setting by setting;
* `Settings.ofText_ok_iff`: these are the settings of a file;
* `Settings.ofText_settles`: with this, what files give, and what changes of a file change.
-/

import CatalogPages.Proofs.Settings.Values
import Mathlib

namespace CatalogPages

/-! ### The settings, one by one -/

/-- The settings, in the order of the fields. -/
inductive Setting where
  | categories
  | libsDir
  | metadataFile
  | pathPrefix
  | skip
  | include_
  | versionFile
  | releaseNotesBase
  | pages
  | charset
  | corrections
  | fixups
  | release
  | unreleased
  | globals
  deriving DecidableEq, Repr

namespace Setting

/-- The key of a setting in a file. -/
def key : Setting → String
  | categories => "categories"
  | libsDir => "libs_dir"
  | metadataFile => "metadata_file"
  | pathPrefix => "path_prefix"
  | skip => "skip"
  | include_ => "include"
  | versionFile => "version_file"
  | releaseNotesBase => "release_notes_base"
  | pages => "pages"
  | charset => "charset"
  | corrections => "overrides"
  | fixups => "fixups"
  | release => "release"
  | unreleased => "unreleased"
  | globals => "globals"

/-- What a setting holds. -/
def Content : Setting → Type
  | categories => Registry
  | libsDir | metadataFile | pathPrefix | versionFile | releaseNotesBase => String
  | skip | include_ | pages | unreleased => List String
  | charset => Option Charset
  | corrections => List Correction
  | fixups => List Fixup
  | release => Release
  | globals => List (String × Json)

/-- What a value means for a setting. -/
def Means : (setting : Setting) → Toml.Value → setting.Content → Prop
  | categories, value, content => ∃ items, value = .array items ∧
      List.Forall₂ (fun item category => item.HasTexts "key" "title" category.key category.title)
        items content.categories
  | libsDir, value, content | metadataFile, value, content | pathPrefix, value, content
  | versionFile, value, content | releaseNotesBase, value, content => value = .text content
  | skip, value, content | include_, value, content | pages, value, content
  | unreleased, value, content => value = .array (content.map .text)
  | charset, value, content => ∃ names, content = some names ∧
      value.HasTexts "from" "to" names.before names.after
  | corrections, value, content => ∃ items, value = .array items ∧
      List.Forall₂ (fun item correction => correction.WrittenAs item) items content
  | fixups, value, content => ∃ items, value = .array items ∧
      List.Forall₂ (fun item fixup => item.HasTexts "find" "replace" fixup.find fixup.replace)
        items content
  | release, value, content => content.NamedBy value
  | globals, value, content => value.HasMembers content

/-- The schema of a setting. -/
def schema : (setting : Setting) → Schema setting.Content
  | categories => Registry.schema
  | libsDir | metadataFile | pathPrefix | versionFile | releaseNotesBase => .text
  | skip | include_ | pages | unreleased => .list .text
  | charset => .optional Charset.schema
  | corrections => .list Correction.schema
  | fixups => .list Fixup.schema
  | release => Release.schema
  | globals => .table

end Setting

/-- What settings have for a setting. -/
def Settings.get (settings : Settings) : (setting : Setting) → setting.Content
  | .categories => settings.categories
  | .libsDir => settings.libsDir
  | .metadataFile => settings.metadataFile
  | .pathPrefix => settings.pathPrefix
  | .skip => settings.skip
  | .include_ => settings.include_
  | .versionFile => settings.versionFile
  | .releaseNotesBase => settings.releaseNotesBase
  | .pages => settings.pages
  | .charset => settings.charset
  | .corrections => settings.corrections
  | .fixups => settings.fixups
  | .release => settings.release
  | .unreleased => settings.unreleased
  | .globals => settings.globals

/-- Settings with a content for each setting. -/
def Settings.ofContents (content : (setting : Setting) → setting.Content) : Settings where
  categories := content .categories
  libsDir := content .libsDir
  metadataFile := content .metadataFile
  pathPrefix := content .pathPrefix
  skip := content .skip
  include_ := content .include_
  versionFile := content .versionFile
  releaseNotesBase := content .releaseNotesBase
  pages := content .pages
  charset := content .charset
  corrections := content .corrections
  fixups := content .fixups
  release := content .release
  unreleased := content .unreleased
  globals := content .globals

theorem Settings.get_ofContents (content : (setting : Setting) → setting.Content)
    (setting : Setting) : (ofContents content).get setting = content setting := by
  cases setting <;> rfl

/-- **What is decoded for a setting is what the value means.** -/
theorem Setting.ofToml_iff {setting : Setting} {value : Toml.Value} {content : setting.Content} :
    setting.schema.ofToml value = some content ↔ setting.Means value content := by
  cases setting with
  | categories =>
    refine Option.map_eq_some_iff.trans ?_
    simp only [Schema.ofToml_list_iff, Category.ofToml_iff]
    constructor
    · rintro ⟨_, ⟨items, written, each⟩, rfl⟩
      exact ⟨items, written, each⟩
    · rintro ⟨items, written, each⟩
      exact ⟨_, ⟨items, written, each⟩, rfl⟩
  | libsDir | metadataFile | pathPrefix | versionFile | releaseNotesBase =>
    exact Schema.ofToml_text_iff
  | skip | include_ | pages | unreleased => exact Schema.ofToml_texts_iff
  | charset =>
    refine Schema.ofToml_optional_iff.trans (exists_congr fun names => ?_)
    rw [Charset.ofToml_iff]
    exact and_comm
  | corrections =>
    refine Schema.ofToml_list_iff.trans ?_
    simp only [Correction.ofToml_iff]
    exact Iff.rfl
  | fixups =>
    refine Schema.ofToml_list_iff.trans ?_
    simp only [Fixup.ofToml_iff]
    exact Iff.rfl
  | release => exact Release.ofToml_iff
  | globals => exact Schema.ofToml_table_iff

/-- A value means one thing for a setting at most. -/
theorem Setting.Means.unique {setting : Setting} {value : Toml.Value}
    {content other : setting.Content} (means : setting.Means value content)
    (means' : setting.Means value other) : content = other := by
  rw [← ofToml_iff] at means means'
  exact Option.some.inj (means.symm.trans means')

/-! ### All settings -/

namespace Settings

variable {text : String} {entries : List (String × Toml.Value)} {settings : Settings}

/-- Settings that entries give: each is what the entry of its key means, or the standard one. -/
def GivenBy (settings : Settings) (entries : List (String × Toml.Value)) : Prop :=
  ∀ setting : Setting, Resolves setting.Means (some (standard.get setting))
    (entries.lookup setting.key) (settings.get setting)

/-- **The settings that a table stands for**, setting by setting. -/
theorem schema_ofToml_iff :
    schema.ofToml (.table false entries) = some settings ↔ settings.GivenBy entries := by
  -- What values mean is what they are decoded to, so that the fields can be taken one by one.
  have meant (setting : Setting) :
      setting.Means = fun value content => setting.schema.ofToml value = some content :=
    funext₂ fun _ _ => propext Setting.ofToml_iff.symm
  simp only [GivenBy, meant]
  constructor
  · intro decodes
    obtain ⟨-, ⟨categories, libsDir, metadataFile, pathPrefix, skip, include_, versionFile,
      releaseNotesBase, pages, charset, corrections, fixups, release, unreleased, globals, ⟨⟩⟩,
      taken, rfl⟩ := Schema.ofToml_record_iff.mp decodes
    obtain ⟨categories, libsDir, metadataFile, pathPrefix, skip, include_, versionFile,
      releaseNotesBase, pages, charset, corrections, fixups, release, unreleased, globals, -⟩ :=
      taken
    exact fun
      | .categories => categories
      | .libsDir => libsDir
      | .metadataFile => metadataFile
      | .pathPrefix => pathPrefix
      | .skip => skip
      | .include_ => include_
      | .versionFile => versionFile
      | .releaseNotesBase => releaseNotesBase
      | .pages => pages
      | .charset => charset
      | .corrections => corrections
      | .fixups => fixups
      | .release => release
      | .unreleased => unreleased
      | .globals => globals
  · intro given
    refine Schema.ofToml_record_iff.mpr ⟨.inr ⟨entries, rfl⟩,
      ⟨settings.categories, settings.libsDir, settings.metadataFile, settings.pathPrefix,
        settings.skip, settings.include_, settings.versionFile, settings.releaseNotesBase,
        settings.pages, settings.charset, settings.corrections, settings.fixups, settings.release,
        settings.unreleased, settings.globals, ()⟩, ?_, rfl⟩
    exact ⟨given .categories, given .libsDir, given .metadataFile, given .pathPrefix, given .skip,
      given .include_, given .versionFile, given .releaseNotesBase, given .pages, given .charset,
      given .corrections, given .fixups, given .release, given .unreleased, given .globals,
      trivial⟩

/-- **The settings of a file are those that its entries give.** -/
theorem ofText_ok_iff (parses : Toml.parse text = some (.table false entries)) :
    ofText text = .ok settings ↔ settings.GivenBy entries := by
  rw [ofText, within_ok_iff, decode, parses, Option.bind_some, ← schema_ofToml_iff]
  cases schema.ofToml (.table false entries) with
  | none => simp
  | some found => simp

/-- The fault of a file that gives no settings. -/
def unreadable : Fault :=
  (Fault.of "TOML parse error").within (.of "invalid TOML")

theorem ofText_error_or_ok (text : String) :
    ofText text = .error unreadable ∨ ∃ settings, ofText text = .ok settings := by
  rw [ofText, decode]
  cases (Toml.parse text).bind schema.ofToml with
  | none => exact .inl rfl
  | some settings => exact .inr ⟨settings, rfl⟩

/-- Entries that each mean something for the setting of their key give settings. -/
theorem exists_givenBy
    (means : ∀ (setting : Setting) (value : Toml.Value),
      entries.lookup setting.key = some value → ∃ content, setting.Means value content) :
    ∃ settings : Settings, settings.GivenBy entries := by
  have each (setting : Setting) : ∃ content, Resolves setting.Means
      (some (standard.get setting)) (entries.lookup setting.key) content := by
    cases found : entries.lookup setting.key with
    | none => exact ⟨_, .missing rfl⟩
    | some value =>
      obtain ⟨content, meant⟩ := means setting value found
      exact ⟨content, .there meant⟩
  choose content resolves using each
  refine ⟨ofContents content, fun setting => ?_⟩
  rw [get_ofContents]
  exact resolves setting

/-- What a file of some entries gives, and what changes of the file change. -/
structure Settles (text : String) (entries : List (String × Toml.Value)) : Prop where
  gives : ∀ settings, ofText text = .ok settings ↔ settings.GivenBy entries
  /-- A value means one thing at most. -/
  unique : ∀ (setting : Setting) (value : Toml.Value) (content other : setting.Content),
    setting.Means value content → setting.Means value other → content = other
  succeeds : (∀ (setting : Setting) (value : Toml.Value),
      entries.lookup setting.key = some value → ∃ content, setting.Means value content) →
    ∃ settings, ofText text = .ok settings
  fails : ∀ (setting : Setting) (value : Toml.Value), entries.lookup setting.key = some value →
    (∀ content, ¬ setting.Means value content) →
    ofText text = .error unreadable
  /-- The entries of other keys change nothing. -/
  passesOver : ∀ other others, Toml.parse other = some (.table false others) →
    (∀ setting : Setting, entries.lookup setting.key = others.lookup setting.key) →
    ofText text = ofText other
  /-- A setting whose key has the same entry, or none as before, is the same. -/
  keeps : ∀ other others, Toml.parse other = some (.table false others) →
    ∀ settings changed, ofText text = .ok settings → ofText other = .ok changed →
    ∀ setting : Setting, entries.lookup setting.key = others.lookup setting.key →
      settings.get setting = changed.get setting

/-- **What a file gives to each setting, and what changes of the file change.** -/
theorem ofText_settles (parses : Toml.parse text = some (.table false entries)) :
    Settles text entries where
  gives _ := ofText_ok_iff parses
  unique _ _ _ _ := Setting.Means.unique
  succeeds := by
    intro means
    obtain ⟨settings, given⟩ := exists_givenBy means
    exact ⟨settings, (ofText_ok_iff parses).mpr given⟩
  fails := by
    intro setting value found meaningless
    rcases ofText_error_or_ok text with failed | ⟨settings, reads⟩
    · exact failed
    · have holds := (ofText_ok_iff parses).mp reads setting
      rw [found, resolves_some_iff] at holds
      exact absurd holds (meaningless _)
  passesOver := by
    intro other others parses' same
    have both (settings : Settings) : ofText text = .ok settings ↔ ofText other = .ok settings := by
      rw [ofText_ok_iff parses, ofText_ok_iff parses']
      simp only [GivenBy, same]
    rcases ofText_error_or_ok other with failed | ⟨settings, reads⟩
    · rcases ofText_error_or_ok text with failed' | ⟨settings, reads⟩
      · rw [failed, failed']
      · rw [(both settings).mp reads, reads]
    · rw [(both settings).mpr reads, reads]
  keeps := by
    intro other others parses' settings changed reads reads' setting same
    have holds := (ofText_ok_iff parses).mp reads setting
    have holds' := (ofText_ok_iff parses').mp reads' setting
    rw [← same] at holds'
    exact holds.unique holds' fun _ _ _ => Setting.Means.unique

/-- Two settings of the file, and a key that is none. -/
theorem ofText_settles_twoKeys :
    ∃ entries, Toml.parse "x=1\nskip=[]\nrelease='development'" = some (.table false entries) ∧
      Settles "x=1\nskip=[]\nrelease='development'" entries ∧
      ofText "x=1\nskip=[]\nrelease='development'" =
        .ok { standard with skip := [], release := .development } := by
  have parses : Toml.parse "x=1\nskip=[]\nrelease='development'" =
      some (.table false [("x", .integer 1), ("skip", .array []),
        ("release", .text "development")]) := by
    cbv
  have settles := ofText_settles parses
  refine ⟨_, parses, settles, (settles.gives _).mpr fun setting => ?_⟩
  cases setting with
  | skip => exact .there rfl
  | release => exact .there .text
  | _ => exact .missing rfl

/-- The names of encodings are read from a list as well, and what is left over is passed over. -/
theorem listedCharset_read :
    ofText "charset = ['a','b','c']" = .ok { standard with charset := some ⟨"a", "b"⟩ } ∧
      ¬ ∀ (text : String) (entries : List (String × Toml.Value)) (value : Toml.Value)
        (settings : Settings), Toml.parse text = some (.table false entries) →
        entries.lookup Setting.charset.key = some value → ofText text = .ok settings →
        ∃ inlined members, value = .table inlined members := by
  have parses : Toml.parse "charset = ['a','b','c']" =
      some (.table false [("charset", .array [.text "a", .text "b", .text "c"])]) := by
    cbv
  have read : ofText "charset = ['a','b','c']" =
      .ok { standard with charset := some ⟨"a", "b"⟩ } := by
    refine (ofText_ok_iff parses).mpr fun setting => ?_
    cases setting with
    | charset => exact .there ⟨_, rfl, rfl, rfl⟩
    | _ => exact .missing rfl
  refine ⟨read, fun all => ?_⟩
  obtain ⟨inlined, members, same⟩ := all _ _ _ _ parses rfl read
  cases same

end Settings

end CatalogPages
