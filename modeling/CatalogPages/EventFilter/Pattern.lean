/-
**Patterns of field values.**

A filter may ask for events by the text of a field, which it gives by a regular expression. No event
of a run is chosen that way, but a filter with an ill-formed expression is ill-formed itself.

* `Pattern.isWellFormed`: whether a text is a regular expression that can be matched.
-/

import CatalogPages.Json.Text

namespace CatalogPages.Pattern

/-- Marks that stand for themselves after a backslash, or between brackets. -/
def isMark (c : Char) : Bool :=
  decide (33 ≤ c.toNat) && decide (c.toNat ≤ 126) && !c.isAlphanum && c != '<' && c != '>'

/-- Letters that name a class of characters or a place after a backslash. -/
def escapeLetters : List Char :=
  ['d', 'D', 's', 'S', 'w', 'W', 'a', 'f', 't', 'n', 'r', 'v', 'A', 'z']

/-- How many hexadecimal digits follow a letter after a backslash. -/
def hexLengths : List (Char × Nat) := [('x', 2), ('u', 4), ('U', 8)]

/-- What follows an escape, after its backslash. -/
def afterEscape? : List Char → Option (List Char)
  | [] => none
  | c :: rest =>
    if isMark c || escapeLetters.contains c then some rest
    else do
      let count ← hexLengths.lookup c
      let digits := rest.take count
      guard (digits.length = count ∧ digits.all fun d => (Json.hexValue? d).isSome)
      return rest.drop count

/-- What follows a class of characters, once it has members or none yet; in at most so many
steps. -/
def afterClass? : (steps : Nat) → (isEmpty : Bool) → List Char → Option (List Char)
  | 0, _, _ => none
  | _, _, [] => none
  | steps + 1, isEmpty, c :: rest =>
    if c = ']' ∧ !isEmpty then some rest
    else if c = '[' then do afterClass? steps false (← afterClass? steps true (negation rest))
    else if c = '\\' then do afterClass? steps false (← afterEscape? rest)
    else afterClass? steps false rest
where
  /-- What follows a sign that turns a class around. -/
  negation : List Char → List Char
    | '^' :: rest => rest
    | rest => rest

/-- What follows the opening of a group: a name, or marks of how it matches. -/
def afterGroupHead? : List Char → Option (List Char)
  | '?' :: 'P' :: '<' :: rest | '?' :: '<' :: rest =>
    let name := rest.takeWhile (· != '>')
    if name.head?.any (fun c => c.isAlpha || c == '_') then some (rest.drop (name.length + 1))
    else none
  | '?' :: rest =>
    match rest.dropWhile fun c => "imsUuxR-".toList.contains c with
    | ':' :: rest => some rest
    | ')' :: more => if rest.head? = some ')' then none else some (')' :: more)
    | _ => none
  | rest => some rest

/-- Whether what is left of an expression is well-formed. `depth` groups are open, and `operand`
tells whether a repetition may come next; in at most so many steps. -/
def scan : (steps : Nat) → (depth : Nat) → (operand : Bool) → List Char → Bool
  | 0, _, _, _ => false
  | _, depth, _, [] => depth == 0
  | steps + 1, depth, operand, c :: rest =>
    if c = '*' ∨ c = '+' ∨ c = '?' then operand && scan steps depth true rest
    else if c = '\x7b' then false
    else if c = '(' then
      match afterGroupHead? rest with
      | some rest => scan steps (depth + 1) false rest
      | none => false
    else if c = ')' then depth != 0 && scan steps (depth - 1) true rest
    else if c = '|' then scan steps depth false rest
    else if c = '[' then
      match afterClass? (rest.length + 1) true (afterClass?.negation rest) with
      | some rest => scan steps depth true rest
      | none => false
    else if c = '\\' then
      match afterEscape? rest with
      | some rest => scan steps depth true rest
      | none => false
    else scan steps depth true rest

/-- Whether a text is a regular expression that can be matched. -/
def isWellFormed (text : List Char) : Bool :=
  scan (text.length + 1) 0 false text

end CatalogPages.Pattern
