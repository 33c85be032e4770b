/-
**How a chain of faults is displayed.**

Each detail has lines of its own: those of its message and those of its parameters. The display of
a chain is made of these lines, in order, each behind four spaces for every detail around its own.

* `Text.endedLines`, `Text.indentEach`: the lines of a text, and the text with all of them indented;
* `displayChain_eq_flatten`: a display is its lines and nothing else;
* `display_within`: what a fault is told within stands before it, and the fault itself follows as
  it is displayed alone, with every line moved in.
-/

import CatalogPages.Fault
import Mathlib.Data.List.Basic

namespace CatalogPages

/-! ### Lines -/

namespace Text

/-- The lines of a text, each with the line feed that ends it. What follows the last line feed is a
line if it holds anything. -/
def endedLines : List Char → List (List Char)
  | [] => []
  | c :: text =>
    if c = '\n' then [c] :: endedLines text
    else
      match endedLines text with
      | [] => [[c]]
      | line :: more => (c :: line) :: more

/-- A text with an indentation at the start of every line. -/
def indentEach (width : Nat) (text : List Char) : List Char :=
  (endedLines text).flatMap (List.replicate width ' ' ++ ·)

/-- A line feed ends the first line. -/
theorem endedLines_line {line : List Char} (unbroken : '\n' ∉ line) (text : List Char) :
    endedLines (line ++ '\n' :: text) = (line ++ ['\n']) :: endedLines text := by
  induction line with
  | nil => simp [endedLines]
  | cons c line ih =>
    rw [List.mem_cons, not_or] at unbroken
    rw [List.cons_append, endedLines, if_neg (Ne.symm unbroken.1), ih unbroken.2, List.cons_append]

/-- Lines that are ended one by one are the lines of the text that they make. -/
theorem endedLines_flatten {lines : List (List Char)}
    (ended : ∀ line ∈ lines, ∃ start, '\n' ∉ start ∧ line = start ++ ['\n']) :
    endedLines lines.flatten = lines := by
  induction lines with
  | nil => rfl
  | cons line lines ih =>
    obtain ⟨start, unbroken, rfl⟩ := ended line List.mem_cons_self
    rw [List.flatten_cons, List.append_assoc, List.singleton_append, endedLines_line unbroken,
      ih fun other member => ended other (List.mem_cons_of_mem _ member)]

/-- A text that is split at its line feeds has none left. -/
theorem not_mem_of_mem_splitOn {text : List Char} :
    ∀ line ∈ text.splitOn '\n', '\n' ∉ line := by
  induction text with
  | nil => simp
  | cons c text ih =>
    intro line member
    by_cases breaks : c = '\n'
    · subst breaks
      rw [List.splitOn_cons_eq_if_modifyHead, if_pos (beq_self_eq_true _)] at member
      rcases List.mem_cons.mp member with rfl | later
      · exact List.not_mem_nil
      · exact ih line later
    · rw [List.splitOn_cons_eq_if_modifyHead, if_neg (by simpa using breaks)] at member
      cases parts : text.splitOn '\n' with
      | nil => exact absurd parts (List.splitOn_ne_nil _ _)
      | cons first more =>
        rw [parts] at member ih
        rcases List.mem_cons.mp member with rfl | later
        · rw [List.mem_cons, not_or]
          exact ⟨Ne.symm breaks, ih first List.mem_cons_self⟩
        · exact ih line (List.mem_cons_of_mem _ later)

theorem indentLines_of_not_mem {width : Nat} {text : List Char} (unbroken : '\n' ∉ text) :
    indentLines width text = text := by
  induction text with
  | nil => rfl
  | cons c text ih =>
    rw [List.mem_cons, not_or] at unbroken
    simp only [indentLines, List.flatMap_cons, if_neg (Ne.symm unbroken.1)] at ih ⊢
    rw [ih unbroken.2, List.singleton_append]

theorem indentLines_append (width : Nat) (first second : List Char) :
    indentLines width (first ++ second) = indentLines width first ++ indentLines width second :=
  List.flatMap_append

end Text

open Text (endedLines indentEach)

/-! ### The lines of details -/

/-- Behind its first line, a text with its line feeds indented goes on with lines that are indented
as a whole. -/
theorem exists_first_of_indentLines (width : Nat) (text : List Char) :
    ∃ first more, text.splitOn '\n' = first :: more ∧
      Text.indentLines width text ++ ['\n'] = first ++ '\n' :: more.flatMap (displayLine width) := by
  induction text with
  | nil => exact ⟨[], [], rfl, rfl⟩
  | cons c text ih =>
    obtain ⟨first, more, parts, same⟩ := ih
    rw [List.splitOn_cons_eq_if_modifyHead, parts]
    by_cases breaks : c = '\n'
    · subst breaks
      refine ⟨[], first :: more, rfl, ?_⟩
      simp only [Text.indentLines, List.flatMap_cons, if_true, displayLine] at same ⊢
      simp [same]
    · refine ⟨c :: first, more, by simp [breaks], ?_⟩
      simp only [Text.indentLines, List.flatMap_cons, if_neg breaks] at same ⊢
      simp [same]

/-- A text with its line feeds indented is made of the lines that it is split into. -/
theorem displayLine_indentLines (width : Nat) (text : List Char) :
    displayLine width (Text.indentLines width text) =
      (text.splitOn '\n').flatMap (displayLine width) := by
  obtain ⟨first, more, parts, same⟩ := exists_first_of_indentLines width text
  rw [parts, List.flatMap_cons, displayLine, displayLine, List.append_assoc, same]
  simp

/-- A parameter without an indentation: its key and its value, or its value alone. -/
def Parameter.text (parameter : Parameter) : List Char :=
  match parameter.key with
  | some key => key.toList ++ [':', ' '] ++ parameter.value.toList
  | none => parameter.value.toList

/-- The lines of a detail: those of its message, and then those of each parameter. -/
def Detail.lines (detail : Detail) : List (List Char) :=
  detail.message.toList.splitOn '\n' ++
    detail.parameters.flatMap fun parameter => parameter.text.splitOn '\n'

/-- The lines of details from a depth on, each with its indentation and its end. -/
def linesFrom (depth : Nat) (details : List Detail) : List (List Char) :=
  (details.zipIdx depth).flatMap fun (detail, depth) => detail.lines.map (displayLine (4 * depth))

/-- No key of a detail is broken by a line feed. -/
def Detail.HasPlainKeys (detail : Detail) : Prop :=
  ∀ parameter ∈ detail.parameters, ∀ key ∈ parameter.key, '\n' ∉ key.toList

/-- No key in a chain of faults is broken by a line feed. -/
def Fault.HasPlainKeys (fault : Fault) : Prop :=
  ∀ detail ∈ fault.details, detail.HasPlainKeys

theorem Parameter.display_eq (width : Nat) {parameter : Parameter}
    (plain : ∀ key ∈ parameter.key, '\n' ∉ key.toList) :
    parameter.display width = (parameter.text.splitOn '\n').flatMap (displayLine width) := by
  rw [← displayLine_indentLines]
  obtain ⟨key, value⟩ := parameter
  cases key with
  | none => rfl
  | some key =>
    have unbroken : '\n' ∉ key.toList ++ [':', ' '] := by
      simpa using plain key rfl
    simp only [Parameter.display, Parameter.text]
    rw [Text.indentLines_append, Text.indentLines_of_not_mem unbroken]

theorem Detail.display_eq (width : Nat) {detail : Detail} (plain : detail.HasPlainKeys) :
    detail.display width = (detail.lines.map (displayLine width)).flatten := by
  have parameters : detail.parameters.flatMap (Parameter.display width) =
      detail.parameters.flatMap fun parameter =>
        (parameter.text.splitOn '\n').flatMap (displayLine width) := by
    refine List.flatMap_congr fun parameter member => ?_
    exact parameter.display_eq width (plain parameter member)
  rw [Detail.display, displayLine_indentLines, parameters, Detail.lines, List.map_append,
    List.flatten_append, ← List.flatMap_def, ← List.flatMap_def, List.flatMap_assoc]

/-- **A display is its lines**, those of each detail at the depth of the detail. -/
theorem displayChain_eq_flatten {details : List Detail}
    (plain : ∀ detail ∈ details, detail.HasPlainKeys) (depth : Nat) :
    displayChain depth details = (linesFrom depth details).flatten := by
  induction details generalizing depth with
  | nil => rfl
  | cons detail causes ih =>
    rw [displayChain, detail.display_eq _ (plain detail List.mem_cons_self),
      ih fun other member => plain other (List.mem_cons_of_mem _ member)]
    simp [linesFrom]

/-- The lines of details are ended one by one. -/
theorem ended_of_mem_linesFrom {depth : Nat} {details : List Detail} :
    ∀ line ∈ linesFrom depth details, ∃ start, '\n' ∉ start ∧ line = start ++ ['\n'] := by
  intro line member
  obtain ⟨⟨detail, at_⟩, -, member⟩ := List.mem_flatMap.mp member
  obtain ⟨text, among, rfl⟩ := List.mem_map.mp member
  have unbroken : '\n' ∉ text := by
    rcases List.mem_append.mp among with message | parameter
    · exact Text.not_mem_of_mem_splitOn text message
    · obtain ⟨parameter, -, among⟩ := List.mem_flatMap.mp parameter
      exact Text.not_mem_of_mem_splitOn text among
  refine ⟨List.replicate (4 * at_) ' ' ++ text, ?_, rfl⟩
  simpa using unbroken

/-- The lines of a chain that starts deeper are those of the chain, moved in. -/
theorem linesFrom_eq_map (depth : Nat) (details : List Detail) :
    linesFrom depth details =
      (linesFrom 0 details).map (List.replicate (4 * depth) ' ' ++ ·) := by
  have moved (more : Nat) (text : List Char) :
      displayLine (4 * (depth + more)) text =
        List.replicate (4 * depth) ' ' ++ displayLine (4 * more) text := by
    simp [displayLine, Nat.mul_add, ← List.replicate_append_replicate]
  simp only [linesFrom, List.zipIdx_eq_map_add (i := depth), List.flatMap_map, List.map_flatMap,
    List.map_map]
  refine List.flatMap_congr fun entry _ => ?_
  exact List.map_congr_left fun text _ => moved entry.2 text

/-- A chain that starts deeper is displayed with every line moved in. -/
theorem displayChain_eq_indentEach {details : List Detail}
    (plain : ∀ detail ∈ details, detail.HasPlainKeys) (depth : Nat) :
    displayChain depth details = indentEach (4 * depth) (displayChain 0 details) := by
  rw [displayChain_eq_flatten plain, displayChain_eq_flatten plain, indentEach,
    Text.endedLines_flatten ended_of_mem_linesFrom, linesFrom_eq_map, List.flatMap_def]

/-- **The display of a chain is put together from its parts.** A fault is displayed within another
as the other one and then itself, every line behind four spaces for each detail of the other. The
lines are those of all details, each behind four spaces for every detail around its own; none is
lost and none is joined to the next. -/
theorem display_within {outer inner : Fault} (outerKeys : outer.HasPlainKeys)
    (innerKeys : inner.HasPlainKeys) :
    (inner.within outer).display.toList =
        outer.display.toList ++
          indentEach (4 * outer.details.length) inner.display.toList ∧
      endedLines (inner.within outer).display.toList =
        linesFrom 0 (outer.details ++ inner.details) := by
  simp only [Fault.display, String.toList_ofList, Fault.details_within]
  constructor
  · rw [displayChain_append, Nat.zero_add, displayChain_eq_indentEach innerKeys]
  · have plain : ∀ detail ∈ outer.details ++ inner.details, detail.HasPlainKeys := by
      intro detail member
      rcases List.mem_append.mp member with among | among
      · exact outerKeys detail among
      · exact innerKeys detail among
    rw [displayChain_eq_flatten plain, Text.endedLines_flatten ended_of_mem_linesFrom]

/-- Line feeds at the end of a message, next to each other and alone: every line that they make is
moved in, an empty one as well. -/
theorem display_within_blankLines :
    let outer : Fault := ⟨⟨"a\n", [⟨some "k", "1\n\n2"⟩]⟩, [⟨"b", []⟩]⟩
    let inner : Fault := ⟨⟨"\n", [⟨none, "x\ny"⟩]⟩, []⟩
    outer.HasPlainKeys ∧ inner.HasPlainKeys ∧
      (inner.within outer).display.toList =
        outer.display.toList ++ indentEach 8 inner.display.toList ∧
      endedLines (inner.within outer).display.toList =
        ["a\n", "\n", "k: 1\n", "\n", "2\n", "    b\n", "        \n", "        \n",
          "        x\n", "        y\n"].map String.toList := by
  intro outer inner
  have outerKeys : outer.HasPlainKeys := by
    simp [outer, Fault.HasPlainKeys, Detail.HasPlainKeys, Fault.details]
  have innerKeys : inner.HasPlainKeys := by
    simp [inner, Fault.HasPlainKeys, Detail.HasPlainKeys, Fault.details]
  obtain ⟨together, lines⟩ := display_within outerKeys innerKeys
  refine ⟨outerKeys, innerKeys, together, lines.trans ?_⟩
  decide

end CatalogPages
