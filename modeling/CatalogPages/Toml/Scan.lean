/-
**Scanning a settings file.**

Scanners take characters from the front of a text or fail. Failures are not told apart.
-/

namespace CatalogPages.Toml

/-- Takes something from the front of a text, or fails. -/
abbrev Scanner := StateT (List Char) Option

/-- The next character, which is kept. -/
def peek : Scanner (Option Char) := do
  return (← get).head?

/-- Takes a text that must come next. -/
def expect (text : List Char) : Scanner Unit := do
  match text.isPrefixOf? (← get) with
  | some rest => set rest
  | none => failure

/-- Takes a text if it comes next, and tells whether it did. -/
def accept (text : List Char) : Scanner Bool := do
  match text.isPrefixOf? (← get) with
  | some rest => set rest; return true
  | none => return false

/-- Takes the characters up to the first of another kind. -/
def takeAll (kind : Char → Bool) : Scanner (List Char) := do
  let text ← get
  set (text.dropWhile kind)
  return text.takeWhile kind

/-- Takes the character that must come next. -/
def take (kind : Char → Bool) : Scanner Char := do
  match ← get with
  | c :: rest => if kind c then do set rest; return c else failure
  | [] => failure

/-- Repeats a step that tells whether to go on, at most so many times. -/
def repeatSteps (step : Scanner (Option α)) : Nat → Scanner (List α)
  | 0 => failure
  | steps + 1 => do
    match ← step with
    | some value => return value :: (← repeatSteps step steps)
    | none => return []

/-- Repeats a step that takes something until it tells to stop. -/
def repeatWhile (step : Scanner (Option α)) : Scanner (List α) := do
  repeatSteps step ((← get).length + 1)

/-- The space and the tab. -/
def isSpace (c : Char) : Bool :=
  c == ' ' || c == '\t'

/-- Passes over spaces and tabs. -/
def spaces : Scanner Unit := do
  let _ ← takeAll isSpace

/-- What may stand in a comment or, quotes and backslashes apart, in a text on one line. -/
def isPlain (c : Char) : Bool :=
  c == '\t' || (' ' ≤ c && c ≤ '~') || c.toNat ≥ 0x80

/-- Takes a line break if one comes next. -/
def lineBreak : Scanner Bool := do
  if ← accept ['\n'] then return true else accept ['\r', '\n']

/-- Passes over a comment if one comes next. -/
def comment : Scanner Unit := do
  if ← accept ['#'] then
    let _ ← takeAll isPlain

/-- The end of a line or of the file. -/
def lineEnd : Scanner Unit := do
  spaces
  comment
  if !(← lineBreak) then
    if !(← get).isEmpty then failure

/-- Passes over spaces, line breaks and comments. -/
def blanks : Scanner Unit := do
  let _ ← repeatWhile do
    match ← peek with
    | some '#' =>
      comment
      if ← lineBreak then return some () else failure
    | some c =>
      if isSpace c then
        spaces
        return some ()
      else if ← lineBreak then return some ()
      else return none
    | none => return none

end CatalogPages.Toml
