/-
**Parts of a template.**

A page's template is cut into parts: text, outputs and statements. The code of an output or a
statement is cut further into tokens.

* a sign in a delimiter trims the text beside it;
* what stands between `raw` and `endraw` is text;
* a delimiter that ends code is looked for only where all brackets are closed.
-/

import CatalogPages.Script.Token
import CatalogPages.Text.Blank
import CatalogPages.Text.Search

namespace CatalogPages.Script

/-- A part of a template. -/
inductive Part where
  | text (text : List Char)
  | output (code : List Token)
  | statement (code : List Token)

/-- The kinds of parts that are not text. -/
inductive Delimiter where
  | output
  | statement
  | comment
  deriving DecidableEq

/-- What ends such a part. -/
def Delimiter.closing : Delimiter → List Char
  | .output => ['\x7d', '\x7d']
  | .statement => ['%', '\x7d']
  | .comment => ['#', '\x7d']

/-- The delimiter at the front of a text, and what follows it. -/
def delimiter? : List Char → Option (Delimiter × List Char)
  | '\x7b' :: '\x7b' :: rest => some (.output, rest)
  | '\x7b' :: '%' :: rest => some (.statement, rest)
  | '\x7b' :: '#' :: rest => some (.comment, rest)
  | _ => none

/-- The text before the first delimiter, and what comes from there on. -/
def beforeDelimiter : List Char → List Char × Option (Delimiter × List Char)
  | [] => ([], none)
  | c :: text =>
    match delimiter? (c :: text) with
    | some found => ([], some found)
    | none =>
      let (before, found) := beforeDelimiter text
      (c :: before, found)

/-- White space between tokens. -/
def isGap (c : Char) : Bool :=
  c == ' ' || c == '\t' || c == '\n' || c == '\r' || c == '\x0c'

/-- A sign beside a delimiter: whether it trims. -/
def sign : List Char → Bool × List Char
  | '-' :: rest => (true, rest)
  | '+' :: rest => (false, rest)
  | rest => (false, rest)

/-- The end of code at the front of a text: whether it trims what follows, and what follows. -/
def codeEnd? (closing text : List Char) : Option (Bool × List Char) :=
  let (trims, rest) := sign text
  (Text.after? closing rest).map (trims, ·)

/-- The rest of a statement that holds one word alone. -/
def lonelyWord? (word text : List Char) : Option (Bool × List Char) := do
  let rest ← Text.after? word (text.dropWhile isGap)
  codeEnd? Delimiter.statement.closing (rest.dropWhile isGap)

/-- The text up to `endraw`, how its end is trimmed, and what follows the statement. -/
def rawText : List Char → Option (List Char × Bool × Bool × List Char)
  | [] => none
  | c :: text =>
    let found := do
      let rest ← Text.after? ['\x7b', '%'] (c :: text)
      let (trimsBefore, rest) := sign rest
      let (trimsAfter, rest) ← lonelyWord? "endraw".toList rest
      return (trimsBefore, trimsAfter, rest)
    match found with
    | some (trimsBefore, trimsAfter, rest) => some ([], trimsBefore, trimsAfter, rest)
    | none => (rawText text).map fun (before, more) => (c :: before, more)

/-! ### Code -/

/-- Marks of two characters. -/
def longMarks : List (List Char) :=
  [['/', '/'], ['*', '*'], ['=', '='], ['!', '='], ['>', '='], ['<', '=']]

/-- Marks of one character. -/
def shortMarks : List Char :=
  ['+', '-', '*', '/', '%', '.', ',', ':', '~', '|', '=', '>', '<', '(', ')', '[', ']', '\x7b',
    '\x7d']

/-- How a mark changes the number of open brackets. -/
def bracketChange (c : Char) : Int :=
  if c = '(' ∨ c = '[' ∨ c = '\x7b' then 1
  else if c = ')' ∨ c = ']' ∨ c = '\x7d' then -1
  else 0

/-- The characters that a name may start with. -/
def isNameStart (c : Char) : Bool :=
  c.isAlpha || c == '_'

/-- The characters that may follow in a name. -/
def isNameChar (c : Char) : Bool :=
  c.isAlphanum || c == '_'

/-- The token at the front of a text, the change in open brackets, and what follows. After a point
digits are the place of an item. -/
def scanToken (afterPoint : Bool) (text : List Char) : Token × Int × List Char :=
  match longMarks.find? (·.isPrefixOf text) with
  | some mark => (.symbol (String.ofList mark), 0, text.drop mark.length)
  | none =>
    match text with
    | [] => (.flaw .malformed, 0, [])
    | c :: rest =>
      if shortMarks.contains c then (.symbol (String.singleton c), bracketChange c, rest)
      else if c = '\'' ∨ c = '"' then
        match quotedText c rest with
        | some (inner, rest) => (textToken inner, 0, rest)
        | none => (.flaw .malformed, 0, [])
      else if c.isDigit then
        let (token, rest) := if afterPoint then scanPlace text else scanNumber text
        (token, 0, rest)
      else if isNameStart c then
        (.name (String.ofList (text.takeWhile isNameChar)), 0, text.dropWhile isNameChar)
      else (.flaw .malformed, 0, [])

/-- Whether a token is a point. -/
def Token.isPoint : Token → Bool
  | .symbol mark => mark == "."
  | _ => false

/-- The tokens of code up to its end, whether the end trims, and what follows; in at most so many
steps. -/
def codeSteps (closing : List Char) : (steps : Nat) → (afterPoint : Bool) → (unclosed : Int) →
    List Char → List Token × Bool × List Char
  | 0, _, _, _ => ([.flaw .malformed], false, [])
  | steps + 1, afterPoint, unclosed, text =>
    let text := text.dropWhile isGap
    match if unclosed = 0 then codeEnd? closing text else none with
    | some (trims, rest) => ([], trims, rest)
    | none =>
      match scanToken afterPoint text with
      | (.flaw fault, _, _) => ([.flaw fault], false, [])
      | (token, change, rest) =>
        let (tokens, more) := codeSteps closing steps token.isPoint (unclosed + change) rest
        (token :: tokens, more)

/-- The tokens of code up to its end. -/
def code (kind : Delimiter) (text : List Char) : List Token × Bool × List Char :=
  codeSteps kind.closing (text.length + 1) false 0 text

/-! ### Parts -/

/-- A part that cannot be read. -/
def brokenPart : Part :=
  .statement [.flaw .malformed]

/-- The part at a delimiter, after its sign; whether its end trims, and what follows. -/
def scanPart (kind : Delimiter) (text : List Char) : Part × Bool × List Char :=
  match kind with
  | .comment =>
    match Text.cutAt? kind.closing text with
    | some (inner, rest) => (.text [], inner.getLast? = some '-', rest)
    | none => (brokenPart, false, [])
  | .output =>
    let (tokens, more) := code kind text
    (.output tokens, more)
  | .statement =>
    match lonelyWord? "raw".toList text with
    | some (trimsStart, rest) =>
      match rawText rest with
      | some (inner, trimsEnd, trimsAfter, rest) =>
        let inner := if trimsStart then Text.trimStart inner else inner
        let inner := if trimsEnd then Text.trimEnd inner else inner
        (.text inner, trimsAfter, rest)
      | none => (brokenPart, false, [])
    | none =>
      let (tokens, more) := code kind text
      (.statement tokens, more)

/-- The parts of a template, in at most so many steps. -/
def partSteps : (steps : Nat) → (trims : Bool) → List Char → List Part
  | 0, _, _ => [brokenPart]
  | steps + 1, trims, template =>
    let template := if trims then Text.trimStart template else template
    match beforeDelimiter template with
    | (text, none) => [.text text]
    | (text, some (kind, rest)) =>
      let (trimsBefore, rest) := sign rest
      let (part, trimsAfter, rest) := scanPart kind rest
      .text (if trimsBefore then Text.trimEnd text else text) :: part ::
        partSteps steps trimsAfter rest

/-- The parts of a template. -/
def parts (template : List Char) : List Part :=
  partSteps (template.length + 1) false template

end CatalogPages.Script
