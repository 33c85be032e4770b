/-
**Settings.**

Everything that a run has to know about a release. Each setting has a value of its own when a file
does not give it, so that a file names only what it changes.
-/

import CatalogPages.Category
import CatalogPages.Correction
import CatalogPages.Fault
import CatalogPages.Fixup
import CatalogPages.Schema.OfToml

namespace CatalogPages

/-- A name of an encoding, and the one that takes its place in every template. -/
structure Charset where
  before : String
  after : String
  deriving DecidableEq, Repr

/-- The kinds of a release. -/
inductive Release where
  | stable
  | development
  deriving DecidableEq, Repr

def Charset.schema : Schema Charset :=
  .record "Charset" (.field "from" .text none <| .field "to" .text none <| .done)
    fun (before, after, ()) => ⟨before, after⟩

def Charset.toJson (charset : Charset) : Json :=
  .ofMembers [("from", .string charset.before), ("to", .string charset.after)]

def Release.isDevelop : Release → Bool
  | .stable => false
  | .development => true

/-- A kind's name in a settings file. -/
def Release.name : Release → String
  | .stable => "stable"
  | .development => "development"

/-- A kind's name in a report. -/
def Release.title : Release → String
  | .stable => "Stable"
  | .development => "Development"

def Release.schema : Schema Release :=
  .choice ([.stable, .development].map fun release => (release.name, release))

/-- The settings of a run. Paths have `/` between their parts and start at the release's root. -/
structure Settings where
  categories : Registry := .standard
  /-- The directory that holds the libraries' directories. -/
  libsDir : String := "libs"
  /-- Where a library's directory has its metadata. -/
  metadataFile : String := "meta/libraries.json"
  /-- What a library's path leaves out of its directory. -/
  pathPrefix : String := "libs/"
  /-- Directories that the scan leaves out. -/
  skip : List String := ["libs/numeric"]
  /-- Directories that come before those of the scan, whatever is left out. -/
  include_ : List String := [
    "libs/numeric/conversion", "libs/numeric/interval", "libs/numeric/odeint",
    "libs/numeric/ublas"]
  /-- The file that declares the version. -/
  versionFile : String := "Jamroot"
  releaseNotesBase : String := "https://www.boost.org/users/history/"
  /-- The templates, in order. -/
  pages : List String := ["index.html", "libs/libraries.htm"]
  charset : Option Charset := some ⟨"iso-8859-1", "utf-8"⟩
  corrections : List Correction := Correction.standard
  fixups : List Fixup := Fixup.standard
  release : Release := .stable
  /-- The keys of libraries that are new in this release. -/
  unreleased : List String := []
  /-- Further variables of pages. -/
  globals : List (String × Json) := []

namespace Settings

/-- The settings of a release that has no file of its own. -/
def standard : Settings := {}

/-- The fields of a settings file. -/
def schema : Schema Settings :=
  .record "Config"
    (.field "categories" Registry.schema (some standard.categories) <|
      .field "libs_dir" .text (some standard.libsDir) <|
      .field "metadata_file" .text (some standard.metadataFile) <|
      .field "path_prefix" .text (some standard.pathPrefix) <|
      .field "skip" (.list .text) (some standard.skip) <|
      .field "include" (.list .text) (some standard.include_) <|
      .field "version_file" .text (some standard.versionFile) <|
      .field "release_notes_base" .text (some standard.releaseNotesBase) <|
      .field "pages" (.list .text) (some standard.pages) <|
      .field "charset" (.optional Charset.schema) (some standard.charset) <|
      .field "overrides" (.list Correction.schema) (some standard.corrections) <|
      .field "fixups" (.list Fixup.schema) (some standard.fixups) <|
      .field "release" Release.schema (some standard.release) <|
      .field "unreleased" (.list .text) (some standard.unreleased) <|
      .field "globals" .table (some standard.globals) <| .done)
    fun (categories, libsDir, metadataFile, pathPrefix, skip, include_, versionFile,
        releaseNotesBase, pages, charset, corrections, fixups, release, unreleased, globals, ()) =>
      { categories, libsDir, metadataFile, pathPrefix, skip, include_, versionFile,
        releaseNotesBase, pages, charset, corrections, fixups, release, unreleased, globals }

def toJson (settings : Settings) : Json :=
  .ofMembers [
    ("categories", settings.categories.toJson),
    ("libs_dir", .string settings.libsDir),
    ("metadata_file", .string settings.metadataFile),
    ("path_prefix", .string settings.pathPrefix),
    ("skip", .strings settings.skip),
    ("include", .strings settings.include_),
    ("version_file", .string settings.versionFile),
    ("release_notes_base", .string settings.releaseNotesBase),
    ("pages", .strings settings.pages),
    ("charset", (settings.charset.map Charset.toJson).getD .null),
    ("overrides", .array (settings.corrections.map Correction.toJson)),
    ("fixups", .array (settings.fixups.map Fixup.toJson)),
    ("release", .string settings.release.name),
    ("unreleased", .strings settings.unreleased),
    ("globals", .object settings.globals)]

/-- The value that a settings file's text stands for. -/
def decode (schema : Schema α) (text : String) : Except Fault α :=
  match (Toml.parse text).bind schema.ofToml with
  | some value => .ok value
  | none => .error (.of "TOML parse error")

/-- The settings that a file's text gives. -/
def ofText (text : String) : Except Fault Settings :=
  within (.of "invalid TOML") (decode schema text)

end Settings

end CatalogPages
