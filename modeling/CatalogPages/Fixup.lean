/-
**Fixups.**

A fixup exchanges a text in a finished page wherever it occurs. Fixups are applied one after
another; one that looks for nothing has no effect.
-/

import CatalogPages.Schema
import CatalogPages.Text.Search

namespace CatalogPages

/-- A text, and what takes its place. -/
structure Fixup where
  find : String
  replace : String
  deriving DecidableEq, Repr

namespace Fixup

def schema : Schema Fixup :=
  .record "Fixup" (.field "find" .text none <| .field "replace" .text none <| .done)
    fun (find, replace, ()) => ⟨find, replace⟩

def toJson (fixup : Fixup) : Json :=
  .ofMembers [("find", .string fixup.find), ("replace", .string fixup.replace)]

/-- Exchanges every occurrence in a text. -/
def apply (fixup : Fixup) (text : List Char) : List Char :=
  Text.replaceAll fixup.find.toList fixup.replace.toList text

/-- Applies fixups in order. -/
def applyAll (fixups : List Fixup) (text : List Char) : List Char :=
  fixups.foldl (fun text fixup => fixup.apply text) text

/-- A fixup that drops an attribution from the end of a sentence. -/
def dropAttribution (sentence attribution : String) : Fixup :=
  ⟨sentence ++ attribution, sentence⟩

/-- The fixups of a release that names no others: attributions that descriptions carry into the
column of authors. -/
def standard : List Fixup := [
  dropAttribution "Help for non-conforming standard libraries"
    ", from Ralf Grosse-Kunstleve and Jens Maurer",
  dropAttribution
    ("Portable networking and other low-level I/O, including sockets, timers, hostname " ++
      "resolution, socket iostreams, serial ports, file descriptors and Windows HANDLEs")
    ", from Chris Kohlhoff"]

end Fixup

end CatalogPages
