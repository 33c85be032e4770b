/-
**Words and marks in code.**

Code that is made of words, with blanks, points and equal signs between them, is cut into just
these.

* `IsWord`: a name that code can hold; `constantWords` stand for other things than values;
* `Reads`: code in front of a text, the tokens that it is cut into, and what follows it;
* `Reads.word`, `Reads.mark`, `Reads.blank`, `reads_end`: code from its end to its front.
-/

import CatalogPages.Script.Part
import Mathlib

namespace CatalogPages.Script

/-! ### Names -/

/-- A character that a name starts with, and characters that may follow in it. -/
def IsWord (word : List Char) : Prop :=
  (∃ c ∈ word.head?, isNameStart c = true) ∧ ∀ c ∈ word, isNameChar c = true

instance (word : List Char) : Decidable (IsWord word) :=
  decidable_of_iff (word.head?.any isNameStart = true ∧ word.all isNameChar = true)
    (by simp [IsWord, Option.any_eq_true])

/-- The words that are no names where a value is expected. -/
def constantWords : List String :=
  ["true", "True", "false", "False", "none", "None", "not"]

theorem IsWord.exists_cons {word : List Char} (isWord : IsWord word) :
    ∃ c rest, word = c :: rest ∧ isNameStart c = true := by
  obtain ⟨⟨c, first, starts⟩, -⟩ := isWord
  cases word with
  | nil => cases first
  | cons d rest =>
    cases first
    exact ⟨c, rest, rfl, starts⟩

/-- A name starts with no character of which this can be decided. -/
theorem ne_of_isNameStart {c d : Char} (starts : isNameStart c = true)
    (other : isNameStart d = false) : c ≠ d := by
  rintro rfl
  rw [starts] at other
  cases other

theorem isGap_of_isNameStart {c : Char} (starts : isNameStart c = true) : isGap c = false := by
  simp (disch := decide) [isGap, ne_of_isNameStart starts]

theorem isDigit_of_isNameStart {c : Char} (starts : isNameStart c = true) :
    c.isDigit = false := by
  simp only [isNameStart, Char.isAlpha, Char.isUpper, Char.isLower, Bool.or_eq_true,
    Bool.and_eq_true, decide_eq_true_eq, beq_iff_eq] at starts
  rw [Char.isDigit, Bool.and_eq_false_iff, decide_eq_false_iff_not, decide_eq_false_iff_not]
  rcases starts with (⟨above, -⟩ | ⟨above, -⟩) | rfl
  · right
    intro below
    exact absurd (UInt32.le_trans above below) (by decide)
  · right
    intro below
    exact absurd (UInt32.le_trans above below) (by decide)
  · decide

/-- No mark starts as a name does. -/
theorem longMark_of_isNameStart {c : Char} (starts : isNameStart c = true) (text : List Char) :
    longMarks.find? (·.isPrefixOf (c :: text)) = none := by
  rw [List.find?_eq_none]
  intro mark member
  simp only [longMarks, List.mem_cons, List.not_mem_nil, or_false] at member
  rcases member with rfl | rfl | rfl | rfl | rfl | rfl <;>
    simp (disch := decide) [(ne_of_isNameStart starts _).symm]

theorem shortMark_of_isNameStart {c : Char} (starts : isNameStart c = true) :
    shortMarks.contains c = false := by
  simp (disch := decide) [shortMarks, ne_of_isNameStart starts]

/-! ### One step -/

theorem takeWhile_word {word rest : List Char} (isWord : IsWord word)
    (apart : ∀ c ∈ rest.head?, isNameChar c = false) :
    (word ++ rest).takeWhile isNameChar = word := by
  rw [List.takeWhile_append_of_pos isWord.2]
  cases rest with
  | nil => simp
  | cons c rest => simp [apart c rfl]

theorem dropWhile_word {word rest : List Char} (isWord : IsWord word)
    (apart : ∀ c ∈ rest.head?, isNameChar c = false) :
    (word ++ rest).dropWhile isNameChar = rest := by
  rw [List.dropWhile_append_of_pos isWord.2]
  cases rest with
  | nil => rfl
  | cons c rest => simp [apart c rfl]

/-- A name in front of something else is one token. -/
theorem scanToken_word {word rest : List Char} (afterPoint : Bool) (isWord : IsWord word)
    (apart : ∀ c ∈ rest.head?, isNameChar c = false) :
    scanToken afterPoint (word ++ rest) = (.name (String.ofList word), 0, rest) := by
  have front := takeWhile_word isWord apart
  have back := dropWhile_word isWord apart
  obtain ⟨c, more, rfl, starts⟩ := isWord.exists_cons
  rw [List.cons_append] at front back ⊢
  have quotes : ¬ (c = '\'' ∨ c = '"') := by
    simp (disch := decide) [ne_of_isNameStart starts]
  simp only [scanToken, longMark_of_isNameStart starts, shortMark_of_isNameStart starts, quotes,
    isDigit_of_isNameStart starts, starts, front, back, Bool.false_eq_true, if_false, if_true]

theorem sign_of_isNameStart {c : Char} (starts : isNameStart c = true) (text : List Char) :
    sign (c :: text) = (false, c :: text) := by
  unfold sign
  split
  · next same => exact absurd (List.cons.inj same).1 (ne_of_isNameStart starts (by decide))
  · next same => exact absurd (List.cons.inj same).1 (ne_of_isNameStart starts (by decide))
  · rfl

/-- Nothing ends code at a name. -/
theorem codeEnd?_of_isNameStart {c : Char} (starts : isNameStart c = true) (kind : Delimiter)
    (text : List Char) : codeEnd? kind.closing (c :: text) = none := by
  rw [codeEnd?, sign_of_isNameStart starts]
  cases kind <;>
    simp (disch := decide) [Delimiter.closing, Text.after?, (ne_of_isNameStart starts _).symm]

/-! ### Code from its end to its front -/

/-- Code in front of a text, where all brackets are closed: its tokens, and what follows it. -/
def Reads (kind : Delimiter) (text : List Char) (tokens : List Token) (rest : List Char) : Prop :=
  ∀ steps, text.length < steps → ∀ afterPoint,
    codeSteps kind.closing steps afterPoint 0 text = (tokens, false, rest)

theorem reads_end (kind : Delimiter) (rest : List Char) :
    Reads kind (kind.closing ++ rest) [] rest := by
  intro steps enough afterPoint
  obtain ⟨steps, rfl⟩ := Nat.exists_eq_add_of_lt enough
  cases kind <;> rfl

namespace Reads

variable {kind : Delimiter} {text rest : List Char} {tokens : List Token}

theorem blank (reads : Reads kind text tokens rest) : Reads kind (' ' :: text) tokens rest := by
  intro steps enough afterPoint
  have same : codeSteps kind.closing steps afterPoint 0 (' ' :: text) =
      codeSteps kind.closing steps afterPoint 0 text := by
    cases steps with
    | zero => rfl
    | succ steps =>
      have gap : (' ' :: text).dropWhile isGap = text.dropWhile isGap := rfl
      rw [codeSteps, codeSteps, gap]
  rw [same]
  exact reads steps (Nat.lt_of_succ_lt enough) afterPoint

theorem word {word : List Char} (reads : Reads kind text tokens rest) (isWord : IsWord word)
    (apart : ∀ c ∈ text.head?, isNameChar c = false) :
    Reads kind (word ++ text) (.name (String.ofList word) :: tokens) rest := by
  intro steps enough afterPoint
  have token := scanToken_word afterPoint isWord apart
  obtain ⟨c, more, rfl, starts⟩ := isWord.exists_cons
  cases steps with
  | zero => cases enough
  | succ steps =>
    have after := reads steps (by simp at enough; omega) false
    rw [List.cons_append] at token ⊢
    rw [codeSteps, List.dropWhile_cons_of_neg (by simp [isGap_of_isNameStart starts])]
    simp only [if_true, codeEnd?_of_isNameStart starts, token, Int.add_zero, Token.isPoint, after]

/-- A name before a blank. -/
theorem name {name : String} (reads : Reads kind text tokens rest) (isWord : IsWord name.toList) :
    Reads kind (name.toList ++ ' ' :: text) (.name name :: tokens) rest := by
  have apart : ∀ c ∈ (' ' :: text).head?, isNameChar c = false := by
    intro c first
    cases first
    decide
  have whole := reads.blank.word isWord apart
  rwa [String.ofList_toList] at whole

/-- A point between two names, and an equal sign before a blank. -/
theorem mark {c : Char} (reads : Reads kind text tokens rest)
    (isMark : c = '.' ∨ c = '=' ∧ text.head? ≠ some '=') :
    Reads kind (c :: text) (.symbol (String.singleton c) :: tokens) rest := by
  intro steps enough afterPoint
  have token : scanToken afterPoint (c :: text) = (.symbol (String.singleton c), 0, text) := by
    rcases isMark with rfl | ⟨rfl, single⟩
    · rfl
    · cases text with
      | nil => rfl
      | cons d text =>
        have short : longMarks.find? (·.isPrefixOf ('=' :: d :: text)) = none := by
          have differ : ¬ '=' = d := fun same => single (same ▸ rfl)
          simp [longMarks, differ]
        simp only [scanToken, short]
        rfl
  have goesOn : codeEnd? kind.closing (c :: text) = none := by
    rcases isMark with rfl | ⟨rfl, -⟩ <;> cases kind <;> rfl
  have solid : isGap c = false := by
    rcases isMark with rfl | ⟨rfl, -⟩ <;> rfl
  cases steps with
  | zero => cases enough
  | succ steps =>
    have after := reads steps (Nat.lt_of_succ_lt_succ enough)
    rw [codeSteps, List.dropWhile_cons_of_neg (by simp [solid])]
    simp only [if_true, goesOn, token, Int.add_zero, after]

end Reads

end CatalogPages.Script
