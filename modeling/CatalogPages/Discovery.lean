/-
**Discovery.**

Where the settings of a run come from: a file that is asked for, or else the settings file at the
release's root, or else the standard settings.
-/

import CatalogPages.Page

namespace CatalogPages.Settings

/-- The name of the settings file at a release's root. -/
def fileName : String := "genpages.toml"

/-- The settings before anything is forced. -/
def find (tree : FileTree) (root : String) (asked : Option String) : Except Fault Settings :=
  match asked with
  | some path => read tree path
  | none =>
    let path := Path.join root fileName
    if tree.isFile path then read tree path else .ok standard

/-- The settings of a run. A development release can be forced. -/
def discover (tree : FileTree) (root : String) (asked : Option String) (develop : Bool) :
    Traced Settings := do
  let found ← Traced.of (find tree root asked)
  let settings := if develop then { found with release := .development } else found
  Traced.report (.configuration settings.release.title settings.pages)
  return settings

end CatalogPages.Settings
