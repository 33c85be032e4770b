/-
**Events.**

What a run reports about its progress: for each kind of event a level, a message, the fields that go
with it, and the part of the program it comes from.
-/

import CatalogPages.Text.Quoted

namespace CatalogPages

/-- How much an event matters, most important first. -/
inductive Level where
  | error
  | warn
  | info
  | debug
  | trace
  deriving DecidableEq, Repr

/-- The place of a level, counted from the most important. -/
def Level.rank : Level → Nat
  | .error => 1
  | .warn => 2
  | .info => 3
  | .debug => 4
  | .trace => 5

def Level.name : Level → String
  | .error => "ERROR"
  | .warn => "WARN"
  | .info => "INFO"
  | .debug => "DEBUG"
  | .trace => "TRACE"

/-- Something that happened in a run. -/
inductive Event where
  /-- A directory of the scan is on the skip list. -/
  | skippedDirectory (directory : String)
  /-- A candidate directory has no metadata file. -/
  | noMetadata (directory : String)
  /-- A record took the place of one with the same key. -/
  | duplicateKey (library replaced successor : String)
  /-- All metadata has been read. -/
  | loaded (libraries : Nat)
  /-- A correction changes a library. -/
  | correctionApplied (library : String)
  /-- A correction names a library that there is not. -/
  | correctionUnknown (library : String)
  /-- A library lists a category that the registry does not have. -/
  | unknownCategory (library category : String)
  /-- A library is listed as new but there is none of that key. -/
  | unreleasedUnknown (library : String)
  /-- All pages have been rendered. -/
  | rendered (version : String) (libraries pages : Nat)
  /-- A page has been put out. -/
  | wrote (page : String) (bytes : Nat) (output : String)
  /-- The settings of the run are known. -/
  | configuration (release : String) (pages : List String)
  deriving DecidableEq, Repr

namespace Event

def level : Event → Level
  | skippedDirectory _ | noMetadata _ | correctionApplied _ | unknownCategory .. => .debug
  | configuration .. => .debug
  | duplicateKey .. | correctionUnknown _ | unreleasedUnknown _ => .warn
  | loaded _ | rendered .. | wrote .. => .info

def message : Event → String
  | skippedDirectory _ => "skipping excluded directory"
  | noMetadata _ => "no metadata file; skipping"
  | duplicateKey .. => "duplicate library key"
  | loaded _ => "loaded library metadata"
  | correctionApplied _ => "applying manual override"
  | correctionUnknown _ => "override names an unknown library"
  | unknownCategory .. => "unknown category"
  | unreleasedUnknown _ => "unreleased library is not in the catalog"
  | rendered .. => "rendered pages"
  | wrote .. => "wrote page"
  | configuration .. => "configuration"

/-- A text between quotes. -/
def quoted (text : String) : String :=
  String.ofList (Text.quote text.toList)

/-- The names and values that go with an event, in order. -/
def fields : Event → List (String × String)
  | skippedDirectory directory | noMetadata directory => [("directory", directory)]
  | duplicateKey library replaced successor =>
    [("library", library), ("replaced", replaced), ("by", successor)]
  | loaded libraries => [("libraries", toString libraries)]
  | correctionApplied library | correctionUnknown library | unreleasedUnknown library =>
    [("library", library)]
  | unknownCategory library category => [("library", library), ("category", category)]
  | rendered version libraries pages =>
    [("version", version), ("libraries", toString libraries), ("pages", toString pages)]
  | wrote page bytes output =>
    [("page", page), ("bytes", toString bytes), ("output", output)]
  | configuration release pages =>
    [("release", release), ("pages", "[" ++ ", ".intercalate (pages.map quoted) ++ "]")]

/-- The part of the program an event comes from; the command line's own event has none. -/
def component : Event → Option String
  | skippedDirectory _ | noMetadata _ | duplicateKey .. | loaded _ => some "pagegen::loader"
  | correctionApplied _ | correctionUnknown _ => some "pagegen::normalize"
  | unknownCategory .. => some "pagegen::catalog::classify"
  | unreleasedUnknown _ => some "pagegen::templating"
  | rendered .. => some "pagegen::pipeline"
  | wrote .. => some "pagegen::page"
  | configuration .. => none

/-- An event as one line: its level, its message and its fields. -/
def line (event : Event) : String :=
  " ".intercalate (event.level.name :: event.message ::
    event.fields.map fun (name, value) => name ++ "=" ++ value)

end Event

end CatalogPages
