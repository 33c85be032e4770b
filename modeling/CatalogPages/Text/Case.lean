/-
**Upper and lower case.**

The full case mappings of the Unicode standard that hang on no language:

* `lowercase`: a capital sigma at the end of a word becomes a final sigma, and a capital I with a
  dot becomes two characters;
* `uppercase`: some characters become two or three.
-/

import CatalogPages.Text.CaseTable

namespace CatalogPages.Text

/-- The run of a sorted table that covers a code point, if any does. -/
def coveringRun? (runs : List (Nat × Nat × Nat × Int)) (n : Nat) :
    Option (Nat × Nat × Nat × Int) :=
  (runs.dropWhile fun (_, last, _) => last < n).head?.filter fun (first, _, step, _) =>
    first ≤ n && (n - first) % step == 0

/-- A one-to-one mapping, given by the runs of a table. -/
def shiftCase (runs : List (Nat × Nat × Nat × Int)) (c : Char) : Char :=
  match coveringRun? runs c.toNat with
  | some (_, _, _, shift) => Char.ofNat (c.toNat + shift).toNat
  | none => c

/-- Whether one of the sorted runs `(first, last)` holds a code point. -/
def inRuns (runs : List (Nat × Nat)) (n : Nat) : Bool :=
  (runs.dropWhile fun (_, last) => last < n).head?.any fun (first, _) => first ≤ n

/-- Letters that have case, and count between other letters. -/
def isCased (c : Char) : Bool :=
  inRuns casedRuns c.toNat

/-- Characters that are passed over when a neighbour's case is looked for. -/
def isCaseIgnorable (c : Char) : Bool :=
  inRuns caseIgnorableRuns c.toNat

/-- Whether the first character that is not passed over has case. -/
def startsCased (text : List Char) : Bool :=
  (text.dropWhile isCaseIgnorable).head?.any isCased

/-- Lower case of one character, with what stands before it in reverse and what follows it. -/
def lowercaseAt (before : List Char) (c : Char) (after : List Char) : List Char :=
  if c = 'Σ' then
    if startsCased before && !startsCased after then ['ς'] else ['σ']
  else if c = 'İ' then ['i', '\u0307']
  else [shiftCase lowercaseRuns c]

/-- Lower case of what follows `before`, which is in reverse. -/
def lowercaseFrom (before : List Char) : List Char → List Char
  | [] => []
  | c :: after => lowercaseAt before c after ++ lowercaseFrom (c :: before) after

/-- A text in lower case. -/
def lowercase (text : List Char) : List Char :=
  lowercaseFrom [] text

/-- Upper case of one character. -/
def uppercaseChar (c : Char) : List Char :=
  match uppercaseExpansions.lookup c.toNat with
  | some expansion => expansion.map Char.ofNat
  | none => [shiftCase uppercaseRuns c]

/-- A text in upper case. -/
def uppercase (text : List Char) : List Char :=
  text.flatMap uppercaseChar

end CatalogPages.Text
