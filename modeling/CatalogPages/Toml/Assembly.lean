/-
**The tables of a settings file.**

Each statement of a file adds to one table. A table may be begun by a header, be implied by the
header of a table in it, or be made by a key of several parts; each way bars some of the others.

* `declare`: an entry is added through the tables that its key names;
* `Block.add`: a header goes to its table, unless that has been begun;
* `assemble`: the table of a whole file.
-/

import CatalogPages.Toml.Reader

namespace CatalogPages.Toml

/-- How a table came to be. -/
inductive Origin where
  /-- By a header, or in braces. -/
  | declared
  /-- By the header of a table in it. -/
  | implied
  /-- By a key of several parts. -/
  | dotted
  deriving DecidableEq, Repr

/-- What an entry of an unfinished table holds. -/
inductive Item where
  | value (value : Value)
  | table (origin : Origin) (entries : List (String × Item))
  /-- A list whose elements have headers of their own. -/
  | tables (elements : List (List (String × Item)))

/-- The entries of an unfinished table. -/
abbrev Entries := List (String × Item)

/-- Exchanges or appends an entry. -/
def Entries.set (name : String) (item : Item) : Entries → Entries
  | [] => [(name, item)]
  | (other, old) :: rest =>
    if other = name then (name, item) :: rest else (other, old) :: Entries.set name item rest

/-- The table of its entries, whatever its origin. -/
structure Table where
  origin : Origin
  entries : Entries

/-- Adds an entry to a table, through the tables that its key names. Only tables that no header and
no braces declare may be gone through, and an entry that is not at the end of a dotted key may not
be added to a dotted table, nor the other way about. -/
def declare (name : String) (item : Item) : (path : List String) → (first : Bool) → Table →
    Option Entries
  | [], first, table =>
    if (table.origin == .dotted) == first then none
    else if (table.entries.lookup name).isSome then none
    else some (table.entries ++ [(name, item)])
  | step :: path, _, table => do
    let inner ← match table.entries.lookup step with
      | none => some (⟨.dotted, []⟩ : Table)
      | some (.table .declared _) => none
      | some (.table origin entries) => some ⟨origin, entries⟩
      | some (.tables elements) => elements.getLast?.map (⟨.declared, ·⟩)
      | some (.value _) => none
    let entries ← declare name item path false inner
    let grown := match table.entries.lookup step with
      | some (.tables elements) => Item.tables (elements.dropLast ++ [entries])
      | _ => Item.table inner.origin entries
    return Entries.set step grown table.entries

mutual

/-- A finished value; tables made inside braces are in braces too. -/
def Item.finish (inlined : Bool) : Item → Value
  | .value value => value
  | .table _ entries => .table inlined (finishEntries inlined entries)
  | .tables elements => .array (finishElements inlined elements)

/-- The finished entries of a table. -/
def finishEntries (inlined : Bool) : List (String × Item) → List (String × Value)
  | [] => []
  | (name, item) :: rest => (name, item.finish inlined) :: finishEntries inlined rest

/-- The finished elements of a list of tables. -/
def finishElements (inlined : Bool) : List (List (String × Item)) → List Value
  | [] => []
  | entries :: rest =>
    .table inlined (finishEntries inlined entries) :: finishElements inlined rest

end

mutual

/-- The value of what is written. -/
def Written.toValue : Written → Option Value
  | .plain value => some value
  | .list items => (writtenItems items).map .array
  | .braces entries => do
    let entries ← writtenEntries entries []
    return .table true (finishEntries true entries)

/-- The values of a list. -/
def writtenItems : List Written → Option (List Value)
  | [] => some []
  | item :: rest => do
    let value ← item.toValue
    return value :: (← writtenItems rest)

/-- The entries of a table in braces. -/
def writtenEntries : List ((List String × String) × Written) → Entries → Option Entries
  | [], table => some table
  | ((path, name), written) :: rest, table => do
    let value ← written.toValue
    writtenEntries rest (← declare name (.value value) path path.isEmpty ⟨.declared, table⟩)

end

/-- Changes the table that a header's path leads to, and makes the tables on the way that there are
not. The path goes through the last element of a list of tables. -/
def through (change : Entries → Option Entries) : (path : List String) → Entries → Option Entries
  | [], entries => change entries
  | step :: path, entries => do
    match entries.lookup step with
    | none => return Entries.set step (.table .implied (← through change path [])) entries
    | some (.table origin inner) =>
      return Entries.set step (.table origin (← through change path inner)) entries
    | some (.tables elements) =>
      let last ← elements.getLast?
      return Entries.set step (.tables (elements.dropLast ++ [← through change path last])) entries
    | some (.value _) => none

/-- The entries that a header's lines give, added to those of its table. -/
def declareAll : List ((List String × String) × Written) → Entries → Option Entries
  | [], entries => some entries
  | ((path, name), written) :: rest, entries => do
    let value ← written.toValue
    declareAll rest (← declare name (.value value) path path.isEmpty ⟨.declared, entries⟩)

/-- A header with the lines that follow it, or the lines before any. -/
structure Block where
  header : Option Statement
  lines : List ((List String × String) × Written)

/-- The lines of a file, by header. -/
def blocks : List Statement → Block × List Block
  | [] => (⟨none, []⟩, [])
  | .entry path name written :: rest =>
    let (block, more) := blocks rest
    (⟨block.header, ((path, name), written) :: block.lines⟩, more)
  | header :: rest =>
    let (block, more) := blocks rest
    (⟨none, []⟩, ⟨some header, block.lines⟩ :: more)

/-- Adds a header's table. It may have been implied, but not begun. -/
def addTable (name : String) (lines : List ((List String × String) × Written))
    (parent : Entries) : Option Entries := do
  let old ← match parent.lookup name with
    | none => some []
    | some (.table .implied entries) => some entries
    | some _ => none
  let entries ← declareAll lines old
  return (parent.filter fun (other, _) => other != name) ++ [(name, .table .declared entries)]

/-- Adds an element to a list of tables. -/
def addElement (name : String) (lines : List ((List String × String) × Written))
    (parent : Entries) : Option Entries := do
  let old ← match parent.lookup name with
    | none => some []
    | some (.tables elements) => some elements
    | some _ => none
  return Entries.set name (.tables (old ++ [← declareAll lines []])) parent

/-- Adds what a block gives to the table of the file. -/
def Block.add (block : Block) (root : Entries) : Option Entries :=
  match block.header with
  | some (.header path name) => through (addTable name block.lines) path root
  | some (.element path name) => through (addElement name block.lines) path root
  | _ => declareAll block.lines root

/-- The table of a whole file. -/
def assemble (statements : List Statement) : Option Entries :=
  let (first, more) := blocks statements
  (first :: more).foldlM (fun root block => block.add root) []

/-- The value that a settings file denotes, or `none` if it is not well formed. -/
def parse (text : String) : Option Value := do
  let entries ← assemble (← statements text.toList)
  return .table false (finishEntries false entries)

end CatalogPages.Toml
