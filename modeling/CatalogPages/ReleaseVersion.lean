/-
**The version of a release.**

The build declares it on a line of five words, `constant BOOST_VERSION : <version> ;`. The first
such line counts.
-/

import CatalogPages.Fault
import CatalogPages.Json.Basic
import CatalogPages.Text.Blank
import CatalogPages.Text.Lines

namespace CatalogPages

/-- The version of a release, and the texts derived from it. -/
structure ReleaseVersion where
  /-- The version as it is declared. -/
  version : String
  /-- The version with an underscore for each period. -/
  underscored : String
  /-- Where the release notes are. -/
  releaseNotesUrl : String
  deriving DecidableEq, Repr

namespace ReleaseVersion

/-- The version that a line declares, if it does. -/
def declared? (line : List Char) : Option (List Char) :=
  match Text.words line with
  | [constant, name, colon, version, semicolon] =>
    if constant = "constant".toList ∧ name = "BOOST_VERSION".toList ∧ colon = [':'] ∧
        semicolon = [';'] then some version
    else none
  | _ => none

/-- A version with the texts derived from it. -/
def ofText (base : String) (version : List Char) : ReleaseVersion :=
  let underscored := String.ofList (version.map fun c => if c = '.' then '_' else c)
  { version := String.ofList version
    underscored
    releaseNotesUrl := base ++ "version_" ++ underscored ++ ".html" }

/-- The version that a text declares first. -/
def parse (content base : String) : Except Fault ReleaseVersion :=
  match (Text.lines content.toList).findSome? declared? with
  | some version => .ok (ofText base version)
  | none => .error (.of "missing `constant BOOST_VERSION : <version> ;` declaration")

/-- The members that a version gives to an object. -/
def members (version : ReleaseVersion) : List (String × Json) := [
  ("version", .string version.version),
  ("version_underscored", .string version.underscored),
  ("release_notes_url", .string version.releaseNotesUrl)]

def toJson (version : ReleaseVersion) : Json :=
  .ofMembers version.members

end ReleaseVersion

end CatalogPages
