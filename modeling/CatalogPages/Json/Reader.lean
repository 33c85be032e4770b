/-
**The reader of documents.**

* `value`: any value, nested at most 127 deep;
* `skipValue`: passes over a value that is not needed, with less care for its numbers and texts;
* `items`, `members`: what stands between brackets, read one by one;
* `document`: a whole text.
-/

import CatalogPages.Json.Number
import CatalogPages.Json.Text

namespace CatalogPages.Json

/-- The letters of `null`, `true` or `false` after the first. -/
def letters : List Char → Reader Unit
  | [] => return ()
  | letter :: more => do
    match ← peek with
    | none => failHere .unfinishedValue
    | some c =>
      if c = letter then
        pass 1
        letters more
      else failNext .expectedIdent

/-- Goes on inside a bracket, one level deeper. -/
def deeper (depth : Nat) (inside : Reader α) : Reader α := do
  if depth ≤ 1 then failNext .tooDeep
  pass 1
  inside

/-- Goes to the next item of a list, or tells that the closing bracket has come. -/
def nextItem (first : Bool) : Reader Bool := do
  match ← gap with
  | none => failNext .unfinishedList
  | some ']' => return false
  | some c =>
    if first then return true
    if c ≠ ',' then failNext .expectedListEnd
    pass 1
    match ← gap with
    | none => failNext .unfinishedValue
    | some ']' => failNext .trailingComma
    | some _ => return true

/-- The items of a list, after its opening bracket, in at most so many steps. -/
def itemSteps (item : Reader α) : (steps : Nat) → (first : Bool) → Reader (List α)
  | 0, _ => failHere .unfinishedList
  | steps + 1, first => do
    if ← nextItem first then
      let value ← item
      return value :: (← itemSteps item steps false)
    else return []

/-- The items of a list, after its opening bracket and up to its closing one. -/
def items (item : Reader α) : Reader (List α) := do
  itemSteps item (← get).steps true

/-- The next key of an object, up to the closing bracket. -/
def nextKey (first : Bool) : Reader (Option String) := do
  match ← gap with
  | none => failNext .unfinishedObject
  | some '\x7d' => return none
  | some c =>
    if first then key c
    else
      if c ≠ ',' then failNext .expectedObjectEnd
      pass 1
      match ← gap with
      | none => failNext .unfinishedValue
      | some '\x7d' => failNext .trailingComma
      | some c => key c
where
  key (c : Char) : Reader (Option String) := do
    if c ≠ '"' then failNext .keyNotString
    pass 1
    return some (← textAfterQuote)

/-- The colon between a key and its value. -/
def colon : Reader Unit := do
  match ← gap with
  | some ':' => pass 1
  | some _ => failNext .expectedColon
  | none => failNext .unfinishedObject

/-- The members of an object, after its opening bracket, in at most so many steps; each changes the
state. -/
def memberSteps (member : String → σ → Reader σ) :
    (steps : Nat) → (first : Bool) → σ → Reader σ
  | 0, _, _ => failHere .unfinishedObject
  | steps + 1, first, state => do
    match ← nextKey first with
    | none => return state
    | some key => memberSteps member steps false (← member key state)

/-- The members of an object, after its opening bracket and up to its closing one. -/
def members (member : String → σ → Reader σ) (state : σ) : Reader σ := do
  memberSteps member (← get).steps true state

/-- A value that holds no others, or `none` at a bracket. -/
def scalar? : Reader (Option Json) := do
  match ← gap with
  | none => failNext .unfinishedValue
  | some 'n' => pass 1; letters ['u', 'l', 'l']; return some .null
  | some 't' => pass 1; letters ['r', 'u', 'e']; return some (.bool true)
  | some 'f' => pass 1; letters ['a', 'l', 's', 'e']; return some (.bool false)
  | some '"' => pass 1; return some (.string (← textAfterQuote))
  | some '-' => pass 1; return some (← number true)
  | some '[' | some '\x7b' => return none
  | some c => if c.isDigit then return some (← number false) else failNext .expectedValue

/-- Any value, with so many levels left. -/
def value : (depth : Nat) → Reader Json
  | 0 => failNext .tooDeep
  | depth + 1 => do
    match ← scalar? with
    | some scalar => return scalar
    | none =>
      if (← peek) = some '[' then
        deeper (depth + 1) (enclosed (.array <$> items (value depth)) closeList)
      else
        deeper (depth + 1) (enclosed (.object <$> members (member (value depth)) []) closeObject)
where
  member (inner : Reader Json) (key : String) (entries : List (String × Json)) :
      Reader (List (String × Json)) := do
    colon
    return Keyed.put key (← inner) entries

/-- How many brackets may be open at once, and one more. -/
def depthLimit : Nat := 128

/-- Passes over digits. -/
def skipDigits : Reader Unit := do
  let _ ← takeWhile Char.isDigit

/-- Passes over an exponent, after its letter. -/
def skipExponent : Reader Unit := do
  pass 1
  let _ ← exponentSign
  if !(← peek).any Char.isDigit then failNext .invalidNumber
  skipDigits

/-- Passes over a number, after its sign. -/
def skipNumber : Reader Unit := do
  match ← peek with
  | some '0' =>
    pass 1
    if (← peek).any Char.isDigit then failNext .invalidNumber
  | some c => if c.isDigit then skipDigits else failNext .invalidNumber
  | none => failNext .invalidNumber
  if (← peek) = some '.' then
    pass 1
    if !(← peek).any Char.isDigit then failNext .invalidNumber
    skipDigits
  match ← peek with
  | some 'e' | some 'E' => skipExponent
  | _ => return ()

/-- A list whose items are passed over, after its opening bracket. -/
def skipItems (item : Reader Unit) : (steps : Nat) → (first : Bool) → Reader Unit
  | 0, _ => failHere .unfinishedList
  | steps + 1, first => do
    match ← gap with
    | none => failNext .unfinishedList
    | some ']' => pass 1
    | some c =>
      if !first then
        if c ≠ ',' then failNext .expectedListEnd
        pass 1
      item
      skipItems item steps false

/-- An object whose members are passed over, after its opening bracket. -/
def skipMembers (item : Reader Unit) : (steps : Nat) → (first : Bool) → Reader Unit
  | 0, _ => failHere .unfinishedObject
  | steps + 1, first => do
    match ← gap with
    | none => failNext .unfinishedObject
    | some '\x7d' => pass 1
    | some c =>
      if !first then
        if c ≠ ',' then failNext .expectedObjectEnd
        pass 1
      match ← gap with
      | some '"' => pass 1
      | some _ => failNext .keyNotString
      | none => failNext .unfinishedObject
      skipText
      colon
      item
      skipMembers item steps false

/-- Passes over a value, in at most so many steps at each level and so many levels. -/
def skipSteps : (steps : Nat) → Reader Unit
  | 0 => failNext .expectedValue
  | steps + 1 => do
    match ← gap with
    | none => failNext .unfinishedValue
    | some 'n' => pass 1; letters ['u', 'l', 'l']
    | some 't' => pass 1; letters ['r', 'u', 'e']
    | some 'f' => pass 1; letters ['a', 'l', 's', 'e']
    | some '"' => pass 1; skipText
    | some '-' => pass 1; skipNumber
    | some '[' => pass 1; skipItems (skipSteps steps) steps true
    | some '\x7b' => pass 1; skipMembers (skipSteps steps) steps true
    | some c => if c.isDigit then skipNumber else failNext .expectedValue

/-- Passes over a value. -/
def skipValue : Reader Unit := do
  skipSteps (← get).steps

/-- The message of a failure, with its place if it has one. -/
def Failure.message : Failure → String
  | .atPlace message place =>
    message ++ " at line " ++ toString place.line ++ " column " ++ toString place.column
  | .unplaced mismatch _ => mismatch.message

/-- A whole text, with nothing after the value. -/
def document (reader : Reader α) (text : String) : Except String α :=
  let whole : Reader α := do
    let result ← reader
    if (← gap).isSome then failNext .trailingCharacters
    return result
  match whole (Cursor.start text) with
  | .ok (result, _) => .ok result
  | .error failure => .error failure.message

/-- The value that a text denotes. -/
def parse (text : String) : Except String Json :=
  document (value depthLimit) text

end CatalogPages.Json
