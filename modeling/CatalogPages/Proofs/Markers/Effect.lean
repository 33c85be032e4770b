/-
**What a tag becomes.**

Inside the sections that are open a tag becomes some text. It may open a section or close one, and a
line break after it may be dropped.

* `Rules.read`: what is made of a tag, or why it is refused;
* `compileTags_read`: tags become what is made of the first, and then what the others become;
* `CutsInto.trim`: without the line break that is dropped, the rest of a template is cut as before.
-/

import CatalogPages.Proofs.Markers.Cutting
import CatalogPages.Proofs.Markers.Denotation
import CatalogPages.Proofs.Text.LinesAndWords

namespace CatalogPages.Markers

open Text (lineBreak skipLineBreak)

/-- What is made of a tag. -/
structure Effect where
  /-- What takes the place of the tag. -/
  text : List Char
  /-- Whether a line break after the tag is dropped. -/
  skips : Bool
  /-- The sections that are open after the tag. -/
  stack : List Section

/-- What is made of a tag inside the open sections, or why the tag is refused. -/
def Rules.read (rules : Rules) (stack : List Section) (line : Nat) (tag inner : List Char) :
    Except MarkerFault Effect :=
  match Marker.ofInner inner with
  | .variable => .ok ⟨shown stack tag, false, stack⟩
  | .comment => .ok ⟨[], true, stack⟩
  | .opener inverted name =>
    match rules.section? stack inverted name with
    | none => .error (.unknownSection tag line)
    | some entry => .ok ⟨shown stack entry.openText, entry.ownsLine, entry :: stack⟩
  | .closer name =>
    match stack with
    | [] => .error (.nothingOpen tag line)
    | entry :: stack =>
      if entry.name = name then .ok ⟨shown stack entry.closeText, entry.ownsLine, stack⟩
      else .error (.mismatch entry.name tag line)
  | .unsupported => .error (.unsupported tag line)

/-- The text after a tag without what is dropped. -/
def Effect.trim (effect : Effect) (following : List Char) : List Char :=
  if effect.skips then skipLineBreak following else following

/-- What is dropped after a tag. -/
def Effect.dropped (effect : Effect) (following : List Char) : List Char :=
  if effect.skips then lineBreak following else []

theorem Effect.dropped_append_trim (effect : Effect) (following : List Char) :
    effect.dropped following ++ effect.trim following = following := by
  unfold Effect.dropped Effect.trim
  split
  · exact Text.lineBreak_append_skipLineBreak following
  · rfl

theorem Effect.append_dropped_append_trim (effect : Effect) (before following : List Char) :
    before ++ effect.dropped following ++ effect.trim following = before ++ following := by
  rw [List.append_assoc, effect.dropped_append_trim]

/-- Tags become what is made of the first of them, and then what the others become. -/
theorem compileTags_read (rules : Rules) (stack : List Section) (tag : Tag) (tags : List Tag)
    (unended : Option OpenTag) :
    rules.compileTags stack (tag :: tags) unended =
      match rules.read stack tag.line tag.text tag.inner with
      | .error fault => .error fault
      | .ok effect => (rules.compileTags effect.stack tags unended).map
          (effect.text ++ shown effect.stack (effect.trim tag.following) ++ ·) := by
  rw [compileTags_cons, Rules.read]
  have goesOn (around : List Section) (first second : List Char) :
      (do
        let rest ← rules.compileTags around tags unended
        return first ++ second ++ rest) =
      (rules.compileTags around tags unended).map (first ++ second ++ ·) := by
    cases rules.compileTags around tags unended <;> rfl
  cases Marker.ofInner tag.inner with
  | «variable» =>
    simp only [shown_append]
    exact goesOn ..
  | comment => exact goesOn stack [] _
  | unsupported => rfl
  | opener inverted name =>
    dsimp only
    cases rules.section? stack inverted name with
    | none => rfl
    | some entry => exact goesOn ..
  | closer name =>
    cases stack with
    | nil => rfl
    | cons entry stack =>
      by_cases named : entry.name = name
      · simp only [if_pos named, shown_append]
        exact goesOn ..
      · simp only [if_neg named]

/-- A tag is never refused for an end that it lacks. -/
theorem read_ne_unended (rules : Rules) (stack : List Section) (line line' : Nat)
    (tag inner : List Char) : rules.read stack line tag inner ≠ .error (.unended line') := by
  unfold Rules.read
  split
  · simp
  · simp
  · split <;> simp
  · split
    · simp
    · split <;> simp
  · simp

/-! ### The rest of a template -/

/-- A line break at the start of a text is no part of the braces that open first in it. -/
theorem firstAt_skip {text front more : List Char} (opens : Text.FirstAt opening text front more) :
    lineBreak text = lineBreak front ∧
      Text.FirstAt opening (skipLineBreak text) (skipLineBreak front) more := by
  have whole : text = front ++ '\x7b' :: ('\x7b' :: more) := by
    rw [opens.occurs]
    simp [opening]
  obtain ⟨sameBreak, sameRest⟩ := Text.lineBreak_append_brace front ('\x7b' :: more)
  have isRest : skipLineBreak front ++ opening ++ more = skipLineBreak text := by
    rw [whole, sameRest]
    simp [opening]
  have quiet : ¬ opening <:+: skipLineBreak front ++ opening.dropLast := by
    intro inside
    obtain ⟨dropped, same⟩ := Text.skipLineBreak_suffix front
    refine opens.not_infix (by simp [opening]) (inside.trans ?_)
    exact List.IsSuffix.isInfix ⟨dropped, by rw [← List.append_assoc, same]⟩
  refine ⟨by rw [whole, sameBreak], ?_⟩
  rw [← isRest]
  exact Text.firstAt_of_not_infix more quiet

/-- A line break at the start of a template belongs to the text before its first tag. -/
theorem CutsInto.skip {line : Nat} {text : List Char} {parts : Cut}
    (cuts : CutsInto line text parts) :
    CutsInto (line + Text.lineBreaks (lineBreak text)) (skipLineBreak text)
      { parts with lead := skipLineBreak parts.lead } := by
  have lines (front : List Char) : line + Text.lineBreaks (lineBreak front) +
      Text.lineBreaks (skipLineBreak front) = line + Text.lineBreaks front := by
    rw [Nat.add_assoc, Text.lineBreaks_lineBreak]
  cases cuts with
  | bare _ plain =>
    exact .bare _ fun inside => plain (inside.trans (Text.skipLineBreak_suffix text).isInfix)
  | @unended _ front _ _ opens endless =>
    obtain ⟨same, opens'⟩ := firstAt_skip opens
    rw [← lines front, ← same]
    exact .unended _ opens' endless
  | @tag _ front _ _ _ _ _ opens closes later =>
    obtain ⟨same, opens'⟩ := firstAt_skip opens
    rw [← lines front, ← same] at later ⊢
    exact .tag opens' closes later

/-- What is left of a template after a tag is cut as before, on the line on which it is left. -/
theorem CutsInto.trim {line : Nat} {text : List Char} {parts : Cut}
    (cuts : CutsInto line text parts) (effect : Effect) :
    CutsInto (line + Text.lineBreaks (effect.dropped text)) (effect.trim text)
      { parts with lead := effect.trim parts.lead } := by
  unfold Effect.dropped Effect.trim
  cases effect.skips with
  | true => exact cuts.skip
  | false => exact cuts

end CatalogPages.Markers
