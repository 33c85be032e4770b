/-
**The reader of settings files.**

A file is a sequence of lines: a table's header, or a key with its value. `statements` gives the
lines in order, without blank ones and comments; what tables they make is decided later.
-/

import CatalogPages.Toml.Moment
import CatalogPages.Toml.Text

namespace CatalogPages.Toml

/-- A value as it is written: the entries of a table in braces have keys of several parts. -/
inductive Written where
  | plain (value : Value)
  | list (items : List Written)
  | braces (entries : List ((List String × String) × Written))

/-- A value that holds no others. -/
def scalar : Scanner Value := do
  match ← peek with
  | some '"' | some '\'' => return .text (← quotedText)
  | some 't' => expect ['t', 'r', 'u', 'e']; return .bool true
  | some 'f' => expect ['f', 'a', 'l', 's', 'e']; return .bool false
  | _ =>
    match ← optional moment with
    | some value => return value
    | none => number

/-- Values between square brackets, after the opening one. A comma may follow the last. -/
def listItems (value : Scanner Written) : Scanner (List Written) := do
  let items ← repeatWhile do
    blanks
    if ← accept [']'] then return none
    let item ← value
    blanks
    if !(← accept [',']) then
      if (← peek) ≠ some ']' then failure
    return some item
  return items

/-- A key and its value. -/
def entry (value : Scanner Written) : Scanner ((List String × String) × Written) := do
  let key ← key
  expect ['=']
  spaces
  return (key, ← value)

/-- Entries between curly brackets, after the opening one. No comma may follow the last. -/
def bracedEntries (value : Scanner Written) :
    Scanner (List ((List String × String) × Written)) := do
  spaces
  if ← accept ['\x7d'] then return []
  let first ← entry value
  let more ← repeatWhile do
    spaces
    if ← accept ['\x7d'] then return none
    expect [',']
    return some (← entry value)
  return first :: more

/-- A value, with so many levels left. -/
def value : (depth : Nat) → Scanner Written
  | 0 => .plain <$> scalar
  | depth + 1 => do
    if ← accept ['['] then
      if depth = 0 then failure
      return .list (← listItems (value depth))
    else if ← accept ['\x7b'] then
      if depth = 0 then failure
      return .braces (← bracedEntries (value depth))
    else return .plain (← scalar)

/-- A line of a settings file. -/
inductive Statement where
  /-- The entries that follow belong to a table. -/
  | header (path : List String) (name : String)
  /-- The entries that follow belong to a new table at the end of a list. -/
  | element (path : List String) (name : String)
  | entry (path : List String) (name : String) (value : Written)

/-- The next line that says something. -/
def statement : Scanner (Option Statement) := do
  let _ ← repeatWhile do
    spaces
    match ← peek with
    | some '#' => lineEnd; return some ()
    | _ => if ← lineBreak then return some () else return none
  if (← get).isEmpty then return none
  if ← accept ['[', '['] then
    let (path, name) ← key
    expect [']', ']']
    lineEnd
    return some (.element path name)
  else if ← accept ['['] then
    let (path, name) ← key
    expect [']']
    lineEnd
    return some (.header path name)
  else
    let ((path, name), written) ← entry (value depthLimit)
    lineEnd
    return some (.entry path name written)

/-- The lines of a settings file, or `none` if it is not well formed. -/
def statements (text : List Char) : Option (List Statement) := do
  let text := match text with
    | '\ufeff' :: rest => rest
    | text => text
  let (found, _) ← repeatWhile statement text
  return found

end CatalogPages.Toml
