/-
**A template read by its bytes.**

The tags of a template can be found without cutting it up: a cursor goes along its bytes from tag to
tag, braces are looked for among the bytes, and pieces of text are taken out between two places.
Such work could go wrong in two ways. A piece could start or end inside a character or outside the
template, and the cursor could stay where it is. Neither happens.

* `Rules.pass`: one turn, which fails where a piece of text cannot be taken out;
* `Rules.Runs`: turn after turn, to the result;
* `pass_of_bare`, `pass_of_unended`, `pass_of_tag`: what a turn does where a character starts;
* `Turn.InRange`: the places of a turn are in order, in the template, and where characters start;
* `runs_in_range`: every template is read to its end, in turns of four bytes or more, and what comes
  of it is what `Rules.compile` makes of the template.
-/

import CatalogPages.Proofs.Markers.Effect
import CatalogPages.Proofs.Text.Bytes

namespace CatalogPages.Markers

open Text (encoded size place? slice? bytesFrom? lineAt? afterLineBreak? Boundary)

/-! ### The work -/

/-- Where the work stands. -/
structure Scan where
  /-- How many bytes have been read. -/
  cursor : Nat := 0
  written : List Char := []
  /-- The sections that are open. -/
  stack : List Section := []
  deriving DecidableEq

/-- What a turn comes to. -/
inductive Pass where
  /-- No tag is left. -/
  | ended (result : Except MarkerFault (List Char))
  /-- A tag has no end. -/
  | endless (line : Nat)
  /-- A tag stands between two places, and the work goes on after it or breaks off. -/
  | tag (start stop : Nat) (after : Except MarkerFault Scan)
  deriving DecidableEq

/-- The last turn, which finds no tag. -/
def Rules.finish (rules : Rules) (template : String) (scan : Scan) : Option Pass :=
  match scan.stack with
  | entry :: _ => some (.ended (.error (.unclosed entry.name)))
  | [] => do
    let rest ← slice? template scan.cursor template.utf8ByteSize
    return .ended (.ok (rules.rename (scan.written ++ rest)))

/-- The text before a tag, which is not looked at where it is hidden. -/
def Scan.lead? (scan : Scan) (template : String) (start : Nat) : Option (List Char) :=
  if isHidden scan.stack then some [] else slice? template scan.cursor start

/-- The place where the work goes on after a tag. -/
def Effect.next? (effect : Effect) (template : String) (stop : Nat) : Option Nat :=
  if effect.skips then afterLineBreak? template stop else some stop

/-- A turn that finds a tag between two places, after some text. -/
def Rules.passTag (rules : Rules) (template : String) (scan : Scan) (lead : List Char)
    (line start stop : Nat) : Option Pass := do
  let tag ← slice? template start stop
  let inner ← slice? template (start + 2) (stop - 2)
  match rules.read scan.stack line tag inner with
  | .error fault => return .tag start stop (.error fault)
  | .ok effect =>
    return .tag start stop
      (.ok ⟨← effect.next? template stop, scan.written ++ lead ++ effect.text, effect.stack⟩)

/-- One turn. It fails where a piece of the template cannot be taken out. -/
def Rules.pass (rules : Rules) (template : String) (scan : Scan) : Option Pass := do
  match place? (encoded opening) (← bytesFrom? template scan.cursor) with
  | none => rules.finish template scan
  | some offset =>
    let start := scan.cursor + offset
    let lead ← scan.lead? template start
    let line ← lineAt? template start
    match place? (encoded closing) (← bytesFrom? template (start + 2)) with
    | none => return .endless line
    | some length => rules.passTag template scan lead line start (start + 2 + length + 2)

/-- The places of a turn that finds a tag. -/
structure Turn where
  cursor : Nat
  start : Nat
  stop : Nat
  next : Nat

/-- Turn after turn from where the work stands, and what comes of it. No turn may fail. -/
inductive Rules.Runs (rules : Rules) (template : String) :
    Scan → List Turn → Except MarkerFault (List Char) → Prop
  | ended {scan : Scan} {result : Except MarkerFault (List Char)}
      (here : rules.pass template scan = some (.ended result)) : Runs rules template scan [] result
  | endless {scan : Scan} {line : Nat} (here : rules.pass template scan = some (.endless line)) :
      Runs rules template scan [] (.error (.unended line))
  | refused {scan : Scan} {start stop : Nat} {fault : MarkerFault}
      (here : rules.pass template scan = some (.tag start stop (.error fault))) :
      Runs rules template scan [⟨scan.cursor, start, stop, stop⟩] (.error fault)
  | goesOn {scan next : Scan} {start stop : Nat} {turns : List Turn}
      {result : Except MarkerFault (List Char)}
      (here : rules.pass template scan = some (.tag start stop (.ok next)))
      (later : Runs rules template next turns result) :
      Runs rules template scan (⟨scan.cursor, start, stop, next.cursor⟩ :: turns) result

/-- **There is one way to go on.** -/
theorem Rules.Runs.unique {rules : Rules} {template : String} {scan : Scan}
    {turns others : List Turn} {result other : Except MarkerFault (List Char)}
    (runs : rules.Runs template scan turns result) (again : rules.Runs template scan others other) :
    others = turns ∧ other = result := by
  induction runs generalizing others other with
  | ended here => cases again <;> simp_all
  | endless here => cases again <;> simp_all
  | refused here => cases again <;> simp_all
  | goesOn here later ih =>
    cases again with
    | ended here' => simp [here] at here'
    | endless here' => simp [here] at here'
    | refused here' => simp [here] at here'
    | goesOn here' later' =>
      simp only [here, Option.some.injEq, Pass.tag.injEq, Except.ok.injEq] at here'
      obtain ⟨rfl, rfl, rfl⟩ := here'
      obtain ⟨rfl, rfl⟩ := ih later'
      exact ⟨rfl, rfl⟩

/-! ### What is to come -/

/-- What is to come of the rest of a template, which is given in parts. -/
def Rules.outcome (rules : Rules) (scan : Scan) (parts : Cut) : Except MarkerFault (List Char) :=
  (rules.compileTags scan.stack parts.tags parts.unended).map fun later =>
    rules.rename (scan.written ++ shown scan.stack parts.lead ++ later)

section Outcome

variable {rules : Rules} {scan : Scan}

theorem outcome_of_unended (lead : List Char) (tag : OpenTag) :
    rules.outcome scan ⟨lead, [], some tag⟩ = .error (.unended tag.line) := by
  unfold Rules.outcome
  cases scan.stack <;> rfl

theorem outcome_bare_ne_unended (lead : List Char) (line : Nat) :
    rules.outcome scan ⟨lead, [], none⟩ ≠ .error (.unended line) := by
  unfold Rules.outcome
  cases scan.stack <;> simp [Rules.compileTags, Except.map]

/-- A tag that is refused decides. -/
theorem outcome_of_refused {tag : Tag} {fault : MarkerFault}
    (refused : rules.read scan.stack tag.line tag.text tag.inner = .error fault)
    (lead : List Char) (tags : List Tag) (unended : Option OpenTag) :
    rules.outcome scan ⟨lead, tag :: tags, unended⟩ = .error fault := by
  rw [Rules.outcome, compileTags_read, refused]
  rfl

/-- After a tag that is read the same is to come as before it. -/
theorem outcome_of_read {tag : Tag} {effect : Effect}
    (read : rules.read scan.stack tag.line tag.text tag.inner = .ok effect)
    (lead : List Char) (tags : List Tag) (unended : Option OpenTag) (place : Nat) :
    rules.outcome scan ⟨lead, tag :: tags, unended⟩ =
      rules.outcome ⟨place, scan.written ++ shown scan.stack lead ++ effect.text, effect.stack⟩
        ⟨effect.trim tag.following, tags, unended⟩ := by
  rw [Rules.outcome, compileTags_read, read, Rules.outcome]
  dsimp only
  cases rules.compileTags effect.stack tags unended <;> simp [Except.map]

end Outcome

/-! ### One turn -/

@[simp] theorem size_opening : size opening = 2 := rfl

@[simp] theorem size_closing : size closing = 2 := rfl

/-- What stands in a tag is two bytes away from its ends. -/
theorem slice?_inner {template : String} {before after : List Char} {tag : Tag}
    (whole : template.toList = before ++ tag.text ++ after) :
    slice? template (size before + 2) (size (before ++ tag.text) - 2) = some tag.inner := by
  have inside : template.toList = before ++ opening ++ tag.inner ++ (closing ++ after) := by
    rw [whole]
    simp [Tag.text]
  have start : size before + 2 = size (before ++ opening) := by
    rw [Text.size_append, size_opening]
  have stop : size (before ++ tag.text) - 2 = size (before ++ opening ++ tag.inner) := by
    simp only [Tag.text, Text.size_append, size_opening, size_closing]
    omega
  rw [start, stop, Text.slice?_append inside]

/-- A tag stands where braces open and close. -/
theorem whole_of_tag {template : String} {before rest front behind after : List Char} {tag : Tag}
    (whole : template.toList = before ++ rest) (opens : Text.FirstAt opening rest front behind)
    (closes : Text.FirstAt closing behind tag.inner after) :
    template.toList = before ++ front ++ tag.text ++ after := by
  rw [whole, opens.occurs, closes.occurs]
  simp [Tag.text]

section Passes

variable (rules : Rules) {template : String} {scan : Scan} {before rest front behind : List Char}
  (whole : template.toList = before ++ rest) (atCursor : scan.cursor = size before)

include whole atCursor

/-- Where no tag is left, the rest of the template is written. -/
theorem pass_of_bare (plain : ¬ opening <:+: rest) :
    rules.pass template scan = some (.ended (rules.outcome scan ⟨rest, [], none⟩)) := by
  rw [Rules.pass, atCursor, Text.bytesFrom?_append whole]
  simp only [Option.bind_eq_bind, Option.bind_some, Text.place?_encoded_of_not_infix plain]
  rw [Rules.finish, atCursor, Text.slice?_rest whole, Rules.outcome]
  cases scan.stack with
  | nil => simp [Rules.compileTags, Except.map]
  | cons entry stack => rfl

/-- Where braces open, it is told on which line, and braces are looked for that close. -/
theorem pass_of_opening (opens : Text.FirstAt opening rest front behind) :
    rules.pass template scan =
      match place? (encoded closing) (encoded behind) with
      | none => some (.endless (1 + Text.lineBreaks (before ++ front)))
      | some length =>
        rules.passTag template scan (shown scan.stack front)
          (1 + Text.lineBreaks (before ++ front)) (size (before ++ front))
          (size (before ++ front) + 2 + length + 2) := by
  have around : template.toList = before ++ front ++ (opening ++ behind) := by
    rw [whole, opens.occurs]
    simp
  have afterOpening : template.toList = before ++ front ++ opening ++ behind := by
    rw [around, ← List.append_assoc _ opening]
  have found := Text.place?_encoded_of_firstAt (by simp [opening]) opens
  have isStart : scan.cursor + size front = size (before ++ front) := by
    rw [atCursor, Text.size_append]
  have lead : scan.lead? template (size (before ++ front)) = some (shown scan.stack front) := by
    rw [Scan.lead?, atCursor, Text.slice?_append around, shown]
    split <;> rfl
  have twoMore : size (before ++ front) + 2 = size (before ++ front ++ opening) := by
    rw [Text.size_append _ opening]
    rfl
  rw [Rules.pass, atCursor, Text.bytesFrom?_append whole, ← atCursor]
  simp only [Option.bind_eq_bind, Option.bind_some, found, isStart, lead]
  rw [Text.lineAt?_append around, twoMore, Text.bytesFrom?_append afterOpening]
  rfl

/-- Where braces open and do not close, their line is told. -/
theorem pass_of_unended (opens : Text.FirstAt opening rest front behind)
    (endless : ¬ closing <:+: behind) :
    rules.pass template scan = some (.endless (1 + Text.lineBreaks (before ++ front))) := by
  rw [pass_of_opening rules whole atCursor opens, Text.place?_encoded_of_not_infix endless]

/-- Where braces open and close, what is between them is read. -/
theorem pass_of_tag {after : List Char} {tag : Tag}
    (opens : Text.FirstAt opening rest front behind)
    (closes : Text.FirstAt closing behind tag.inner after)
    (isLine : tag.line = 1 + Text.lineBreaks (before ++ front)) :
    rules.pass template scan = some (.tag
      (size (before ++ front)) (size (before ++ front ++ tag.text))
      ((rules.read scan.stack tag.line tag.text tag.inner).map fun effect =>
        ⟨size (before ++ front ++ tag.text ++ effect.dropped after),
          scan.written ++ shown scan.stack front ++ effect.text, effect.stack⟩)) := by
  have around : template.toList = before ++ front ++ tag.text ++ after :=
    whole_of_tag whole opens closes
  have found := Text.place?_encoded_of_firstAt (by simp [closing]) closes
  have isStop : size (before ++ front) + 2 + size tag.inner + 2 =
      size (before ++ front ++ tag.text) := by
    simp only [Tag.text, Text.size_append, size_opening, size_closing]
    omega
  rw [pass_of_opening rules whole atCursor opens, found]
  simp only [isStop]
  rw [Rules.passTag, Text.slice?_append around, slice?_inner around, ← isLine]
  simp only [Option.bind_eq_bind, Option.bind_some]
  cases rules.read scan.stack tag.line tag.text tag.inner with
  | error fault => rfl
  | ok effect =>
    have next : effect.next? template (size (before ++ front ++ tag.text)) =
        some (size (before ++ front ++ tag.text ++ effect.dropped after)) := by
      rw [Effect.next?, Text.afterLineBreak?_append around, Effect.dropped]
      split <;> simp
    simp only [next]
    rfl

end Passes

/-- A comment of one character, which has two bytes, is dropped with the line break after it. -/
example : ({} : Rules).pass (String.ofList (opening ++ ['!', 'é'] ++ closing ++ ['\n'])) {} =
    some (.tag 0 7 (.ok ⟨8, [], []⟩)) := by
  rfl

/-! ### Turn after turn -/

/-- The places of a turn are in order, in the template, and where it can be cut. A tag has four
bytes or more. -/
structure Turn.InRange (template : String) (turn : Turn) : Prop where
  cursor_le : turn.cursor ≤ turn.start
  start_le : turn.start + 4 ≤ turn.stop
  stop_le : turn.stop ≤ turn.next
  next_le : turn.next ≤ template.utf8ByteSize
  boundary : ∀ place ∈
    [turn.cursor, turn.start, turn.start + 2, turn.stop - 2, turn.stop, turn.next],
    Boundary template place

/-- A turn finds a tag. -/
structure Turn.Finds (template : String) (turn : Turn) (tag : Tag) : Prop where
  text : slice? template turn.start turn.stop = some tag.text
  inner : slice? template (turn.start + 2) (turn.stop - 2) = some tag.inner
  line : lineAt? template turn.start = some tag.line

section Places

variable {template : String} {before front dropped after : List Char} {tag : Tag}

theorem inRange_of_tag (whole : template.toList = before ++ front ++ tag.text ++ dropped ++ after) :
    Turn.InRange template ⟨size before, size (before ++ front), size (before ++ front ++ tag.text),
      size (before ++ front ++ tag.text ++ dropped)⟩ where
  cursor_le := by
    simp only [Text.size_append]
    omega
  start_le := by
    simp only [Tag.text, Text.size_append, size_opening, size_closing]
    omega
  stop_le := by
    simp only [Text.size_append]
    omega
  next_le := Text.size_le whole
  boundary := by
    have isBoundary (part more : List Char) (split : template.toList = part ++ more) {place : Nat}
        (isPlace : place = size part) : Boundary template place :=
      Text.boundary_iff.mpr ⟨part, more, split, isPlace⟩
    simp only [List.forall_mem_cons, List.not_mem_nil, false_implies, implies_true, and_true]
    refine ⟨?_, ?_, ?_, ?_, ?_, ?_⟩
    · exact isBoundary before (front ++ tag.text ++ dropped ++ after) (by simp [whole]) rfl
    · exact isBoundary (before ++ front) (tag.text ++ dropped ++ after) (by simp [whole]) rfl
    · refine isBoundary (before ++ front ++ opening) (tag.inner ++ closing ++ dropped ++ after)
        (by simp [whole, Tag.text]) ?_
      rw [Text.size_append _ opening, size_opening]
    · refine isBoundary (before ++ front ++ opening ++ tag.inner) (closing ++ dropped ++ after)
        (by simp [whole, Tag.text]) ?_
      simp only [Tag.text, Text.size_append, size_opening, size_closing]
      omega
    · exact isBoundary (before ++ front ++ tag.text) (dropped ++ after) (by simp [whole]) rfl
    · exact isBoundary _ after whole rfl

theorem finds_of_tag (whole : template.toList = before ++ front ++ tag.text ++ after)
    (isLine : tag.line = 1 + Text.lineBreaks (before ++ front)) (cursor next : Nat) :
    Turn.Finds template ⟨cursor, size (before ++ front), size (before ++ front ++ tag.text), next⟩
      tag where
  text := Text.slice?_append whole
  inner := slice?_inner whole
  line := by
    rw [Text.lineAt?_append (by rw [whole, List.append_assoc]), isLine]

end Places

/-- Turns from a place on, all in range, which find the first of some tags one after another, and
what comes of them. A tag without an end, which ends no turn, has two more bytes. -/
structure Covers (template : String) (place : Nat) (turns : List Turn) (tags : List Tag)
    (result : Except MarkerFault (List Char)) : Prop where
  inRange : ∀ turn ∈ turns, turn.InRange template
  finds : List.Forall₂ (Turn.Finds template) turns (tags.take turns.length)
  fits : place + 4 * turns.length ≤ template.utf8ByteSize
  unended : ∀ line, result = .error (.unended line) →
    place + 4 * turns.length + 2 ≤ template.utf8ByteSize

theorem Covers.cons {template : String} {turn : Turn} {turns : List Turn} {tag : Tag}
    {tags : List Tag} {result : Except MarkerFault (List Char)} (inRange : turn.InRange template)
    (finds : turn.Finds template tag) (later : Covers template turn.next turns tags result) :
    Covers template turn.cursor (turn :: turns) (tag :: tags) result := by
  have wide : turn.cursor + 4 ≤ turn.next := by
    have := inRange.cursor_le
    have := inRange.start_le
    have := inRange.stop_le
    omega
  refine ⟨List.forall_mem_cons.mpr ⟨inRange, later.inRange⟩, .cons finds later.finds, ?_, ?_⟩
  · have := later.fits
    rw [List.length_cons]
    omega
  · intro line isUnended
    have := later.unended line isUnended
    rw [List.length_cons]
    omega

/-- The work goes on through the tags that are left, and comes to what becomes of them. -/
def Rules.GoesThrough (rules : Rules) (template : String) (scan : Scan) (parts : Cut) : Prop :=
  ∃ turns, rules.Runs template scan turns (rules.outcome scan parts) ∧
    Covers template scan.cursor turns parts.tags (rules.outcome scan parts)

section Steps

variable (rules : Rules) {template : String} {scan : Scan} {before rest front behind : List Char}
  (whole : template.toList = before ++ rest) (atCursor : scan.cursor = size before)

include whole atCursor

theorem goesThrough_bare (plain : ¬ opening <:+: rest) :
    rules.GoesThrough template scan ⟨rest, [], none⟩ := by
  refine ⟨[], .ended (pass_of_bare rules whole atCursor plain), by simp, .nil, ?_, ?_⟩
  · rw [atCursor]
    exact Text.size_le whole
  · exact fun line isUnended => absurd isUnended (outcome_bare_ne_unended rest line)

theorem goesThrough_unended (opens : Text.FirstAt opening rest front behind)
    (endless : ¬ closing <:+: behind) :
    rules.GoesThrough template scan
      ⟨front, [], some ⟨1 + Text.lineBreaks (before ++ front), behind⟩⟩ := by
  have around : template.toList = before ++ front ++ opening ++ behind := by
    rw [whole, opens.occurs]
    simp
  have inside : scan.cursor + 2 ≤ template.utf8ByteSize := by
    have := Text.size_le around
    simp only [Text.size_append, size_opening] at this
    omega
  rw [Rules.GoesThrough, outcome_of_unended]
  exact ⟨[], .endless (pass_of_unended rules whole atCursor opens endless), by simp, .nil,
    Nat.le_of_add_right_le inside, fun _ _ => inside⟩

variable {after : List Char} {tag : Tag} (tags : List Tag) (unended : Option OpenTag)
  (opens : Text.FirstAt opening rest front behind)
  (closes : Text.FirstAt closing behind tag.inner after)
  (isLine : tag.line = 1 + Text.lineBreaks (before ++ front))

include opens closes isLine

theorem goesThrough_refused {fault : MarkerFault}
    (refused : rules.read scan.stack tag.line tag.text tag.inner = .error fault) :
    rules.GoesThrough template scan ⟨front, tag :: tags, unended⟩ := by
  have around : template.toList = before ++ front ++ tag.text ++ after :=
    whole_of_tag whole opens closes
  have here := pass_of_tag rules whole atCursor opens closes isLine
  have inRange := inRange_of_tag (by rwa [← List.append_nil (before ++ front ++ _)] at around)
  rw [List.append_nil, ← atCursor] at inRange
  have finds := finds_of_tag around isLine scan.cursor (size (before ++ front ++ tag.text))
  rw [refused] at here
  rw [Rules.GoesThrough, outcome_of_refused refused]
  refine ⟨_, .refused here, .cons inRange finds ⟨by simp, .nil, Text.size_le around, ?_⟩⟩
  rintro line ⟨⟩
  exact (read_ne_unended _ _ _ _ _ _ refused).elim

theorem goesThrough_read {effect : Effect}
    (read : rules.read scan.stack tag.line tag.text tag.inner = .ok effect)
    (later : rules.GoesThrough template
      ⟨size (before ++ front ++ tag.text ++ effect.dropped after),
        scan.written ++ shown scan.stack front ++ effect.text, effect.stack⟩
      ⟨effect.trim tag.following, tags, unended⟩) :
    rules.GoesThrough template scan ⟨front, tag :: tags, unended⟩ := by
  have around : template.toList = before ++ front ++ tag.text ++ after :=
    whole_of_tag whole opens closes
  have here := pass_of_tag rules whole atCursor opens closes isLine
  have inRange := inRange_of_tag (around.trans (effect.append_dropped_append_trim _ after).symm)
  rw [read] at here
  obtain ⟨turns, runs, covers⟩ := later
  rw [Rules.GoesThrough, outcome_of_read read]
  refine ⟨_, .goesOn here runs, ?_⟩
  rw [atCursor]
  exact .cons inRange (finds_of_tag around isLine ..) covers

end Steps

/-- Where a tag ends, no line has ended but those before it and in it. -/
theorem lineBreaks_tag (before : List Char) (tag : Tag) :
    Text.lineBreaks (before ++ tag.text) = Text.lineBreaks before + Text.lineBreaks tag.inner := by
  have opens : Text.lineBreaks opening = 0 := rfl
  have closes : Text.lineBreaks closing = 0 := rfl
  simp only [Tag.text, Text.lineBreaks_append, opens, closes, Nat.zero_add, Nat.add_zero]

/-- **The work goes through the tags** from wherever a character starts. -/
theorem goesThrough (rules : Rules) {template : String} (length : Nat) :
    ∀ {before rest : List Char} {parts : Cut} {scan : Scan}, rest.length = length →
      template.toList = before ++ rest → scan.cursor = size before →
      CutsInto (1 + Text.lineBreaks before) rest parts →
      rules.GoesThrough template scan parts := by
  induction length using Nat.strongRecOn with
  | ind length ih =>
    intro before rest parts scan isLength whole atCursor cuts
    cases cuts with
    | bare _ plain => exact goesThrough_bare rules whole atCursor plain
    | unended _ opens endless =>
      rw [Nat.add_assoc, ← Text.lineBreaks_append]
      exact goesThrough_unended rules whole atCursor opens endless
    | @tag _ front behind inner after _ parts opens closes later =>
      set tag : Tag := ⟨1 + Text.lineBreaks before + Text.lineBreaks front, inner, parts.lead⟩
      have closes : Text.FirstAt closing behind tag.inner after := closes
      have isLine : tag.line = 1 + Text.lineBreaks (before ++ front) := by
        rw [Text.lineBreaks_append, ← Nat.add_assoc]
      cases read : rules.read scan.stack tag.line tag.text tag.inner with
      | error fault =>
        exact goesThrough_refused rules whole atCursor _ _ opens closes isLine read
      | ok effect =>
        refine goesThrough_read rules whole atCursor _ _ opens closes isLine read ?_
        -- A line break that is dropped has been read, and so the rest is cut on a later line.
        have whole' := (whole_of_tag whole opens closes).trans
          (effect.append_dropped_append_trim (before ++ front ++ tag.text) after).symm
        have later' := later.trim effect
        rw [Nat.add_assoc 1, ← Text.lineBreaks_append, Nat.add_assoc 1, ← lineBreaks_tag _ tag,
          Nat.add_assoc 1, ← Text.lineBreaks_append] at later'
        have shorter : (effect.trim after).length < length := by
          have := congrArg List.length (whole.symm.trans whole')
          simp only [Tag.text, opening, List.length_append, List.length_cons] at this
          omega
        exact ih _ shorter rfl whole' rfl later'

/-- **No piece of a template is taken out of range.** The work can be done for every template, in
one way, and it comes to what the template becomes. Each turn that finds a tag starts where a
character starts, goes on by four bytes or more, and stays in the template, so that there are no
more of them than a quarter of its bytes; a tag without an end, at which the work breaks off, has
two more bytes. Each tag, what stands in it and its line are those that cutting the template
finds. -/
theorem runs_in_range (rules : Rules) (template : String) :
    ∃ turns, rules.Runs template {} turns (rules.compile template.toList) ∧
      (∀ others result, rules.Runs template {} others result →
        others = turns ∧ result = rules.compile template.toList) ∧
      (∀ turn ∈ turns, turn.InRange template) ∧
      4 * turns.length ≤ template.utf8ByteSize ∧
      (∀ line, rules.compile template.toList = .error (.unended line) →
        4 * turns.length + 2 ≤ template.utf8ByteSize) ∧
      List.Forall₂ (Turn.Finds template) turns ((cut template.toList).tags.take turns.length) := by
  have isCompiled : rules.outcome {} (cut template.toList) = rules.compile template.toList := by
    rw [Rules.compile, Rules.compileText, Rules.outcome]
    cases rules.compileTags [] (cut template.toList).tags (cut template.toList).unended <;> rfl
  have goes : rules.GoesThrough template {} (cut template.toList) :=
    goesThrough rules _ rfl (List.nil_append _).symm rfl (cutsInto_cut template.toList)
  obtain ⟨turns, runs, covers⟩ := goes
  rw [isCompiled] at runs covers
  refine ⟨turns, runs, fun _ _ => runs.unique, covers.inRange, ?_, ?_, covers.finds⟩
  · simpa only [Nat.zero_add] using covers.fits
  · simpa only [Nat.zero_add] using covers.unended

end CatalogPages.Markers
