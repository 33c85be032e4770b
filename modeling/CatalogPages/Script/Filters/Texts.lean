/-
**Filters that make texts.**

A text made from a safe one is safe, except where it is built anew from single characters.
-/

import CatalogPages.Script.Arguments
import CatalogPages.Script.Markup
import CatalogPages.Text.Blank
import CatalogPages.Text.Case
import CatalogPages.Text.Lines
import CatalogPages.Text.Search

namespace CatalogPages.Script

/-- Makes a value of a value and of arguments, where values may be written with entities. -/
abbrev Filter := (escapes : Bool) → Value → Taking Value

namespace Filter

/-- A filter without arguments that changes a text. -/
def ofText (change : List Char → List Char) : Filter := fun _ value =>
  return value.ofTextLike (change value.display)

/-- The visible characters of ASCII that are neither letters nor digits. -/
def isPunctuation (c : Char) : Bool :=
  '!' ≤ c && c ≤ '~' && !c.isAlphanum

/-- A text whose words start with a capital letter, and whether a word may start after it. -/
def titleFrom (starts : Bool) : List Char → List Char
  | [] => []
  | c :: rest =>
    if isPunctuation c || Text.isBlank c then c :: titleFrom true rest
    else (if starts then Text.uppercaseChar c else Text.lowercaseAt [] c []) ++ titleFrom false rest

def title : Filter := fun _ value =>
  return .ofText (titleFrom true value.display)

/-- A text that starts with a capital letter, and has no other. -/
def capitalized : List Char → List Char
  | [] => []
  | c :: rest => Text.uppercaseChar c ++ Text.lowercase rest

/-- A text with each occurrence of another exchanged. There is nothing before, after and between all
characters. -/
def replaced (find replacement text : List Char) : List Char :=
  if find.isEmpty then replacement ++ text.flatMap fun c => c :: replacement
  else Text.replaceAll find replacement text

def replace : Filter := fun escapes value => do
  let find ← Taking.nextText
  let replacement ← Taking.nextText
  let replacement := if value.isSafe then replacement.onPage escapes else replacement.display
  return value.ofTextLike (replaced find.display replacement value.display)

/-- A text without some characters at its ends. -/
def trimmed (unwanted : Char → Bool) (text : List Char) : List Char :=
  ((text.dropWhile unwanted).reverse.dropWhile unwanted).reverse

def trim : Filter := fun _ value => do
  match ← Taking.optionalText with
  | some unwanted => return value.ofTextLike (trimmed unwanted.display.contains value.display)
  | none => return value.ofTextLike (Text.trim value.display)

/-- A text without the line break at its end. -/
def withoutBreak (text : List Char) : List Char :=
  let text := if text.getLast? = some '\n' then text.dropLast else text
  if text.getLast? = some '\r' then text.dropLast else text

/-- A text with an indentation before each line. -/
def indented (width : Nat) (first blank : Bool) (text : List Char) : List Char :=
  let margin := List.replicate width ' '
  let indent (line : List Char) : List Char :=
    if line.isEmpty && !blank then line else margin ++ line
  let lines := match (withoutBreak text).splitOn '\n' with
    | [] => []
    | line :: rest => (if first then indent line else line) :: rest.map indent
  withoutBreak (lines.flatMap fun line => line ++ ['\n'])

def indent : Filter := fun _ value => do
  let width ← Taking.asCount (← Taking.next)
  let first := (← (← Taking.optional).mapM Taking.asFlag).getD false
  let blank := (← (← Taking.optional).mapM Taking.asFlag).getD false
  return value.ofTextLike (indented width first blank value.display)

def join : Filter := fun escapes value => do
  let separator := (← Taking.optionalText).getD (.ofText [])
  return .joined escapes (← value.items) separator

/-! ### Parts of a text -/

/-- The parts of a text between occurrences of another, at most so many. -/
def partsBetween (separator : List Char) : (limit : Nat) → List Char → List (List Char)
  | 0, _ => []
  | 1, text => [text]
  | limit + 2, text =>
    match Text.cutAt? separator text with
    | some (before, rest) => before :: partsBetween separator (limit + 1) rest
    | none => [text]

/-- The characters of a text as parts, with nothing before and after them. -/
def characterParts (limit : Nat) (text : List Char) : List (List Char) :=
  let parts := [] :: (text.map fun c => [c])
  if limit ≤ parts.length then parts.take (limit - 1) ++ [text.drop (limit - 2)]
  else parts ++ [[]]

/-- The words of a text, at most so many; the last one is all that is left. -/
def wordParts : (limit : Nat) → List Char → List (List Char)
  | 0, _ => []
  | limit + 1, text =>
    let solid := Text.trimStart text
    let rest := solid.dropWhile fun c => !Text.isBlank c
    if solid.isEmpty then (if text.isEmpty then [] else [text])
    else if limit = 0 || rest.isEmpty then [solid]
    else (solid.takeWhile fun c => !Text.isBlank c) :: wordParts limit rest

/-- The parts of a text, between separators or as words, and at most so many. -/
def textParts (separator : Option (List Char)) (limit : Option Nat) (text : List Char) :
    List (List Char) :=
  match separator, limit with
  | none, none => Text.words text
  | none, some limit => wordParts limit text
  | some [], limit => characterParts (limit.getD (text.length + 3)) text
  | some separator, limit => partsBetween separator (limit.getD (text.length + 1)) text

def split : Filter := fun _ value => do
  let separator ← Taking.optionalText
  let limit ← (← Taking.optional).mapM Taking.asWhole
  let limit := (limit.filter (0 ≤ ·)).map fun n => n.toNat + 1
  let parts := textParts (separator.map Value.display) limit value.display
  return .stream (parts.map .ofText) false

def lines : Filter := fun _ value =>
  return .list ((Text.lines value.display).map .ofText)

/-! ### Entities -/

def safe : Filter := fun _ value => return .ofSafe value.display

def escape : Filter := fun _ value => return value.escaped

/-- A text as it is, and any other value as it is written. -/
def string : Filter := fun _ value => return value.ofTextLike value.display

/-- A literal over several lines. -/
def outline : Filter := fun _ value => return .ofText value.outline

end Filter

/-- The filters that make texts, by name. -/
def textFilters : List (String × Filter) := [
  ("upper", .ofText Text.uppercase),
  ("lower", .ofText Text.lowercase),
  ("title", .title),
  ("capitalize", .ofText Filter.capitalized),
  ("replace", .replace),
  ("trim", .trim),
  ("indent", .indent),
  ("join", .join),
  ("split", .split),
  ("lines", .lines),
  ("safe", .safe),
  ("escape", .escape),
  ("e", .escape),
  ("string", .string),
  ("pprint", .outline)]

end CatalogPages.Script
