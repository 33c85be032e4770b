/-
**Kinds of characters.**

Which characters are small or capital letters, and which are letters or numbers at all, in every
script.
-/

import CatalogPages.Text.Case
import CatalogPages.Text.LetterTable

namespace CatalogPages.Text

/-- Whether one of the sorted runs `(first, last, step)` holds a code point. -/
def inSteppedRuns (runs : List (Nat × Nat × Nat)) (n : Nat) : Bool :=
  (runs.dropWhile fun (_, last, _) => last < n).head?.any fun (first, _, step) =>
    first ≤ n && (n - first) % step == 0

/-- Characters with the property Lowercase. -/
def isSmall (c : Char) : Bool :=
  inSteppedRuns smallRuns c.toNat

/-- Characters with the property Uppercase. -/
def isCapital (c : Char) : Bool :=
  inSteppedRuns capitalRuns c.toNat

/-- Letters and numbers. -/
def isLetterOrNumber (c : Char) : Bool :=
  inRuns letterOrNumberRuns c.toNat

end CatalogPages.Text
