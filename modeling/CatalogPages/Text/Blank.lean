/-
**White space.**

The characters with the Unicode property White_Space, and the three ways text is cut by them:

* `trimStart`, `trimEnd`, `trim`: white space leaves one end of a text, or both;
* `words`: the longest runs without white space, in order.
-/

namespace CatalogPages.Text

/-- The characters with the Unicode property White_Space. -/
def isBlank (c : Char) : Bool :=
  let n := c.toNat
  (9 ≤ n && n ≤ 13) || n == 0x20 || n == 0x85 || n == 0xA0 || n == 0x1680 ||
    (0x2000 ≤ n && n ≤ 0x200A) || n == 0x2028 || n == 0x2029 || n == 0x202F || n == 0x205F ||
    n == 0x3000

/-- A text without its leading white space. -/
def trimStart (text : List Char) : List Char :=
  text.dropWhile isBlank

/-- A text without its trailing white space. -/
def trimEnd (text : List Char) : List Char :=
  (text.reverse.dropWhile isBlank).reverse

/-- A text without the white space at its ends. -/
def trim (text : List Char) : List Char :=
  trimEnd (trimStart text)

/-- The longest runs without white space, in order. -/
def words (text : List Char) : List (List Char) :=
  (text.splitOnP isBlank).filter fun word => !word.isEmpty

@[simp] theorem trimStart_nil : trimStart [] = [] := rfl

@[simp] theorem trimEnd_nil : trimEnd [] = [] := rfl

/-- Only white space leaves the end of a text. -/
theorem trimEnd_append_blank (text tail : List Char) (blank : ∀ c ∈ tail, isBlank c = true) :
    trimEnd (text ++ tail) = trimEnd text := by
  induction tail generalizing text with
  | nil => simp
  | cons c rest ih =>
    have here : trimEnd (text ++ [c]) = trimEnd text := by
      simp [trimEnd, blank c (by simp)]
    rw [List.append_cons, ih (text ++ [c]) fun d member => blank d (by simp [member]), here]

/-- A text that ends in something else keeps its end. -/
theorem trimEnd_append_solid (text : List Char) (c : Char) (solid : isBlank c = false) :
    trimEnd (text ++ [c]) = text ++ [c] := by
  simp [trimEnd, solid]

end CatalogPages.Text
