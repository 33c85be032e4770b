/-
**Lines and words as a text is written.**

A text is cut into lines at its line breaks, and a line into words at its white space. Both cuts are
said here by how the pieces are put together, without the functions that find them.

* `Spaced`: a text that is made of words with white space around and between them;
* `spaced_iff`: every text is, and `words` finds its words;
* `Lined`: a text that is made of lines, each with the break that ends it;
* `lined_iff`: every text is, and `lines` finds its lines;
* `Lined.append`: the lines of texts that are put together;
* `exists_lined_of_line`: the lines of a text that starts with a given line;
* `lineBreak`: what `skipLineBreak` skips.
-/

import CatalogPages.Text.Blank
import CatalogPages.Text.Lines
import Mathlib.Data.List.Basic

namespace CatalogPages.Text

/-! ### Words -/

/-- A word: some characters, and no white space among them. -/
structure IsWord (word : List Char) : Prop where
  nonempty : word ≠ []
  solid : ∀ c ∈ word, isBlank c = false

instance (word : List Char) : Decidable (IsWord word) :=
  decidable_of_iff (word ≠ [] ∧ word.all (!isBlank ·) = true)
    ⟨fun ⟨nonempty, solid⟩ => ⟨nonempty, by simpa using solid⟩,
      fun isWord => ⟨isWord.nonempty, by simpa using isWord.solid⟩⟩

/-- A text and its words. White space may stand everywhere between words, and a word goes on up to
white space or to the end of the text. -/
inductive Spaced : List Char → List (List Char) → Prop
  | nil : Spaced [] []
  | blank {c : Char} {text : List Char} {words : List (List Char)} (white : isBlank c = true)
      (rest : Spaced text words) : Spaced (c :: text) words
  | word {word text : List Char} {words : List (List Char)} (isWord : IsWord word)
      (apart : ∀ c ∈ text.head?, isBlank c = true) (rest : Spaced text words) :
      Spaced (word ++ text) (word :: words)

theorem IsWord.singleton {c : Char} (solid : isBlank c = false) : IsWord [c] where
  nonempty := List.cons_ne_nil _ _
  solid := by simpa using solid

theorem IsWord.cons {c : Char} {word : List Char} (solid : isBlank c = false)
    (isWord : IsWord word) : IsWord (c :: word) where
  nonempty := List.cons_ne_nil _ _
  solid := by
    intro d member
    rcases List.mem_cons.mp member with rfl | member
    · exact solid
    · exact isWord.solid d member

/-- **Every text has words.** -/
theorem exists_spaced (text : List Char) : ∃ words, Spaced text words := by
  induction text with
  | nil => exact ⟨[], .nil⟩
  | cons c text ih =>
    obtain ⟨words, spaced⟩ := ih
    cases solid : isBlank c with
    | true => exact ⟨words, .blank solid spaced⟩
    | false =>
      -- The character starts a word of its own, unless the text starts with one.
      cases spaced with
      | nil => exact ⟨[[c]], .word (.singleton solid) (by simp) .nil⟩
      | blank white rest =>
        exact ⟨[c] :: words, .word (.singleton solid) (by simpa using white) (.blank white rest)⟩
      | word isWord apart rest =>
        exact ⟨_, .word (.cons solid isWord) apart rest⟩

theorem words_blank {c : Char} (white : isBlank c = true) (text : List Char) :
    words (c :: text) = words text := by
  unfold words
  rw [List.splitOnP_cons_eq_if_modifyHead, if_pos white]
  exact List.filter_cons_of_neg (by simp)

theorem words_word {word text : List Char} (isWord : IsWord word)
    (apart : ∀ c ∈ text.head?, isBlank c = true) : words (word ++ text) = word :: words text := by
  have alone : word.splitOnP isBlank = [word] :=
    List.splitOnP_eq_singleton fun c member => by simp [isWord.solid c member]
  have kept : [word].filter (fun word => !word.isEmpty) = [word] := by simp [isWord.nonempty]
  cases text with
  | nil =>
    rw [List.append_nil]
    unfold words
    rw [alone, kept]
    rfl
  | cons c text =>
    rw [words_blank (apart c rfl)]
    unfold words
    rw [List.splitOnP_append_cons _ _ (apart c rfl), alone, List.filter_append, kept]
    rfl

theorem Spaced.words_eq {text : List Char} {words : List (List Char)}
    (spaced : Spaced text words) : Text.words text = words := by
  induction spaced with
  | nil => rfl
  | blank white _ ih => rw [words_blank white, ih]
  | word isWord apart _ ih => rw [words_word isWord apart, ih]

/-- **The words of a text are found.** -/
theorem spaced_iff (text : List Char) (words : List (List Char)) :
    Spaced text words ↔ Text.words text = words := by
  refine ⟨Spaced.words_eq, ?_⟩
  rintro rfl
  obtain ⟨words, spaced⟩ := exists_spaced text
  rwa [spaced.words_eq]

/-- White space in front of a text is no part of its words. -/
theorem Spaced.gap {gap text : List Char} {words : List (List Char)}
    (blank : ∀ c ∈ gap, isBlank c = true) (spaced : Spaced text words) :
    Spaced (gap ++ text) words := by
  induction gap with
  | nil => exact spaced
  | cons c gap ih =>
    have rest := ih fun d member => blank d (List.mem_cons_of_mem _ member)
    exact .blank (blank c List.mem_cons_self) rest

theorem Spaced.of_blank {gap : List Char} (blank : ∀ c ∈ gap, isBlank c = true) :
    Spaced gap [] := by
  rw [← List.append_nil gap]
  exact .gap blank .nil

/-- A word in front of white space, and the words of what follows. -/
theorem Spaced.wordGap {word gap text : List Char} {words : List (List Char)}
    (isWord : IsWord word) (nonempty : gap ≠ []) (blank : ∀ c ∈ gap, isBlank c = true)
    (spaced : Spaced text words) : Spaced (word ++ (gap ++ text)) (word :: words) := by
  refine .word isWord (fun c first => ?_) (spaced.gap blank)
  rw [List.head?_append_of_ne_nil _ nonempty] at first
  exact blank c (List.mem_of_head? first)

/-- White space behind a text is no part of its words either. -/
theorem words_append_blank {c : Char} (white : isBlank c = true) (text : List Char) :
    words (text ++ [c]) = words text := by
  unfold words
  rw [List.splitOnP_append_cons _ _ white, List.filter_append]
  exact List.append_nil _

/-! ### Lines -/

/-- A text and its lines. A line feed ends a line, and so does a carriage return in front of one;
what follows the last line feed is a line if it holds anything. -/
inductive Lined : List Char → List (List Char) → Prop
  | nil : Lined [] []
  | last {line : List Char} (nonempty : line ≠ []) (unbroken : '\n' ∉ line) : Lined line [line]
  | feed {line text : List Char} {lines : List (List Char)} (unbroken : '\n' ∉ line)
      (bare : line.getLast? ≠ some '\r') (rest : Lined text lines) :
      Lined (line ++ '\n' :: text) (line :: lines)
  | returnFeed {line text : List Char} {lines : List (List Char)} (unbroken : '\n' ∉ line)
      (rest : Lined text lines) : Lined (line ++ '\r' :: '\n' :: text) (line :: lines)

/-- **Every text has lines.** -/
theorem exists_lined (text : List Char) : ∃ lines, Lined text lines := by
  induction text with
  | nil => exact ⟨[], .nil⟩
  | cons c text ih =>
    obtain ⟨lines, lined⟩ := ih
    by_cases breaks : c = '\n'
    · subst breaks
      exact ⟨[] :: lines, @Lined.feed [] _ _ List.not_mem_nil (by simp) lined⟩
    have unbroken {line : List Char} (rest : '\n' ∉ line) : '\n' ∉ c :: line :=
      List.not_mem_cons_of_ne_of_not_mem (Ne.symm breaks) rest
    cases lined with
    | nil => exact ⟨[[c]], .last (List.cons_ne_nil _ _) (unbroken List.not_mem_nil)⟩
    | last _ rest => exact ⟨[c :: text], .last (List.cons_ne_nil _ _) (unbroken rest)⟩
    | @feed line text lines rest bare later =>
      -- A carriage return in front of the line feed belongs to the break.
      cases line with
      | nil =>
        by_cases isReturn : c = '\r'
        · subst isReturn
          exact ⟨[] :: lines, @Lined.returnFeed [] _ _ List.not_mem_nil later⟩
        · exact ⟨[c] :: lines, .feed (unbroken rest) (by simpa using isReturn) later⟩
      | cons d line =>
        exact ⟨(c :: d :: line) :: lines, .feed (unbroken rest) (by simpa using bare) later⟩
    | returnFeed rest later => exact ⟨_, .returnFeed (unbroken rest) later⟩

theorem dropReturn_of_bare {line : List Char} (bare : line.getLast? ≠ some '\r') :
    dropReturn line = line :=
  if_neg bare

theorem dropReturn_return (line : List Char) : dropReturn (line ++ ['\r']) = line := by
  simp [dropReturn]

theorem splitOnP_of_unbroken {line : List Char} (unbroken : '\n' ∉ line) :
    line.splitOnP (· == '\n') = [line] :=
  List.splitOnP_eq_singleton fun c member => by
    simpa using fun same : c = '\n' => unbroken (same ▸ member)

theorem lines_last {line : List Char} (nonempty : line ≠ []) (unbroken : '\n' ∉ line) :
    lines line = [line] := by
  cases line with
  | nil => exact absurd rfl nonempty
  | cons c line =>
    unfold lines
    rw [splitOnP_of_unbroken unbroken]
    rfl

/-- A line feed ends the first line. -/
theorem lines_feed {line : List Char} (unbroken : '\n' ∉ line) (text : List Char) :
    lines (line ++ '\n' :: text) = dropReturn line :: lines text := by
  have parts : (line ++ '\n' :: text).splitOnP (· == '\n') = line :: text.splitOnP (· == '\n') := by
    rw [List.splitOnP_append_cons _ _ (by rfl), splitOnP_of_unbroken unbroken]
    rfl
  unfold lines
  rw [parts, List.reverse_cons]
  cases ended : (text.splitOnP (· == '\n')).reverse with
  | nil => exact absurd (List.reverse_eq_nil_iff.mp ended) (List.splitOnP_ne_nil _ _)
  | cons last ended =>
    cases last with
    | nil => simp
    | cons c last => simp

theorem Lined.lines_eq {text : List Char} {lines : List (List Char)} (lined : Lined text lines) :
    Text.lines text = lines := by
  induction lined with
  | nil => rfl
  | last nonempty unbroken => exact lines_last nonempty unbroken
  | feed unbroken bare _ ih => rw [lines_feed unbroken, dropReturn_of_bare bare, ih]
  | @returnFeed line text _ unbroken _ ih =>
    have unbroken' : '\n' ∉ line ++ ['\r'] := by simp [unbroken]
    rw [← List.singleton_append, ← List.append_assoc, lines_feed unbroken', dropReturn_return, ih]

/-- **The lines of a text are found.** -/
theorem lined_iff (text : List Char) (lines : List (List Char)) :
    Lined text lines ↔ Text.lines text = lines := by
  refine ⟨Lined.lines_eq, ?_⟩
  rintro rfl
  obtain ⟨lines, lined⟩ := exists_lined text
  rwa [lined.lines_eq]

/-- A carriage return that belongs to a line break is no part of a word. -/
theorem words_dropReturn (line : List Char) : words (dropReturn line) = words line := by
  unfold dropReturn
  split
  · next isReturn =>
    have whole := List.dropLast_append_getLast? '\r' isReturn
    conv => rhs; rw [← whole, words_append_blank (by rfl)]
  · rfl

/-- A text whose last line is ended: nothing is there, or a line feed comes last. -/
def Ended (text : List Char) : Prop :=
  ∀ c ∈ text.getLast?, c = '\n'

theorem Ended.rest {front text : List Char} (ended : Ended (front ++ text)) : Ended text := by
  intro c last
  exact ended c (by rw [List.getLast?_append, last]; rfl)

/-- Behind lines that are ended the lines of another text follow. -/
theorem Lined.append {first second : List Char} {lines others : List (List Char)}
    (lined : Lined first lines) (ended : Ended first) (another : Lined second others) :
    Lined (first ++ second) (lines ++ others) := by
  induction lined with
  | nil => exact another
  | @last line nonempty unbroken =>
    have isLast := List.getLast?_eq_some_getLast nonempty
    have feed := ended _ isLast
    exact absurd (feed ▸ List.getLast_mem nonempty) unbroken
  | @feed line text lines unbroken bare _ ih =>
    rw [List.append_cons] at ended
    rw [List.append_assoc, List.cons_append]
    exact .feed unbroken bare (ih ended.rest)
  | @returnFeed line text lines unbroken _ ih =>
    rw [List.append_cons, List.append_cons] at ended
    rw [List.append_assoc, List.cons_append, List.cons_append]
    exact .returnFeed unbroken (ih ended.rest)

/-- A line that goes up to a line feed or to the end of the text comes first, though a carriage
return may not count as a part of it. -/
theorem exists_lined_of_line {line text : List Char} (nonempty : line ≠ []) (unbroken : '\n' ∉ line)
    (breaks : ∀ c ∈ text.head?, c = '\n') :
    ∃ first later, Lined (line ++ text) (first :: later) ∧ words first = words line := by
  cases text with
  | nil =>
    rw [List.append_nil]
    exact ⟨line, [], .last nonempty unbroken, rfl⟩
  | cons c text =>
    obtain rfl := breaks c rfl
    exact ⟨_, _, (lined_iff ..).mpr (lines_feed unbroken text), words_dropReturn line⟩

/-! ### Line breaks -/

@[simp] theorem lineBreaks_append (first second : List Char) :
    lineBreaks (first ++ second) = lineBreaks first + lineBreaks second :=
  List.count_append

/-- The line break with which a text starts, if it does. -/
def lineBreak : List Char → List Char
  | '\r' :: '\n' :: _ => ['\r', '\n']
  | '\n' :: _ => ['\n']
  | _ => []

theorem lineBreak_append_skipLineBreak (text : List Char) :
    lineBreak text ++ skipLineBreak text = text := by
  unfold lineBreak
  split <;> simp [skipLineBreak]

/-- A line that ends in a text ends in the line break at its start or after it. -/
theorem lineBreaks_lineBreak (text : List Char) :
    lineBreaks (lineBreak text) + lineBreaks (skipLineBreak text) = lineBreaks text := by
  rw [← lineBreaks_append, lineBreak_append_skipLineBreak]

/-- A brace after a text does not change its line break. -/
theorem lineBreak_append_brace (text more : List Char) :
    lineBreak (text ++ '\x7b' :: more) = lineBreak text ∧
      skipLineBreak (text ++ '\x7b' :: more) = skipLineBreak text ++ '\x7b' :: more := by
  unfold lineBreak skipLineBreak
  match text with
  | [] => exact ⟨rfl, rfl⟩
  | [c] =>
    by_cases isFeed : c = '\n'
    · subst isFeed
      exact ⟨rfl, rfl⟩
    · constructor <;> split <;> simp_all
  | c :: d :: text =>
    constructor <;> simp only [List.cons_append] <;> split <;> simp_all

end CatalogPages.Text
