/-
**Sections that nothing closes.**

Where every tag of a template is read, the template can still leave sections open. It is refused for
the innermost of them, and the fault names this section by a marker with `#`, also where the section
was opened as the opposite of a flag.

* `LeavesOpen`: the opening markers that no marker closes, innermost first;
* `LeavesOpen.foldlM_step`, `exists_leavesOpen`: the tags that are all read are those with known
  sections that leave some markers open;
* `LeavesOpen.unique`: the markers that are left open are determined by the tags;
* `unclosed_iff_leftOpen`: when a template is refused for a section left open, which section this
  is, and what the fault says of it.
-/

import CatalogPages.Proofs.Markers.Refusal

namespace CatalogPages.Markers

/-! ### Markers that are left open -/

/-- A tag that opens a section. -/
structure Opener where
  tag : Tag
  inverted : Bool
  name : List Char
  opens : Marker.ofInner tag.inner = .opener inverted name

/-- The opening markers of some tags that no marker of theirs closes, innermost first. What stands
between two of them, and after the last, is nested. -/
inductive LeavesOpen : List Tag → List Opener → Prop
  | nothing (tree : SectionTree) : LeavesOpen tree.tags []
  | opened {tags : List Tag} {around : List Opener} (outer : LeavesOpen tags around)
      (opener : Opener) (inside : SectionTree) :
      LeavesOpen (tags ++ opener.tag :: inside.tags) (opener :: around)

/-- Nested tags leave open what was open before them. -/
theorem LeavesOpen.append {tags : List Tag} {openers : List Opener}
    (leaves : LeavesOpen tags openers) (tree : SectionTree) :
    LeavesOpen (tags ++ tree.tags) openers := by
  cases leaves with
  | nothing first =>
    rw [← SectionTree.tags_append]
    exact .nothing (first.append tree)
  | opened outer opener inside =>
    rw [List.append_assoc, List.cons_append, ← SectionTree.tags_append]
    exact .opened outer opener (inside.append tree)

/-- A closing marker closes the innermost section, if it has its name. -/
theorem LeavesOpen.close {tags : List Tag} {opener : Opener} {around : List Opener}
    (leaves : LeavesOpen tags (opener :: around)) {closer : Tag}
    (closes : Marker.ofInner closer.inner = .closer opener.name) :
    LeavesOpen (tags ++ [closer]) around := by
  cases leaves with
  | opened outer _ inside =>
    have closed := outer.append
      (.enclosed opener.tag opener.inverted opener.name opener.opens inside closer closes .done)
    simpa using closed

/-! ### One way to leave markers open -/

/-- The opening markers on a stack after one more tag. -/
def pushOrPop (stack : List Tag) (tag : Tag) : List Tag :=
  match Marker.ofInner tag.inner with
  | .opener .. => tag :: stack
  | .closer _ => stack.tail
  | .variable | .comment | .unsupported => stack

/-- Nested tags leave a stack as it was. -/
theorem foldl_pushOrPop_tags (tree : SectionTree) (stack : List Tag) :
    tree.tags.foldl pushOrPop stack = stack := by
  induction tree generalizing stack with
  | done => rfl
  | value tag isVariable rest ih => simp [pushOrPop, isVariable, ih]
  | comment tag isComment rest ih => simp [pushOrPop, isComment, ih]
  | enclosed opener inverted name opens body closer closes rest ihBody ihRest =>
    simp [pushOrPop, opens, closes, ihBody, ihRest]

theorem LeavesOpen.foldl_pushOrPop {tags : List Tag} {openers : List Opener}
    (leaves : LeavesOpen tags openers) : tags.foldl pushOrPop [] = openers.map Opener.tag := by
  induction leaves with
  | nothing tree => exact foldl_pushOrPop_tags tree []
  | opened outer opener inside ih =>
    simp [List.foldl_append, ih, pushOrPop, opener.opens, foldl_pushOrPop_tags]

theorem Opener.tag_injective : Function.Injective Opener.tag := by
  rintro ⟨tag, inverted, name, opens⟩ ⟨_, inverted', name', opens'⟩ rfl
  obtain ⟨rfl, rfl⟩ := Marker.opener.inj (opens.symm.trans opens')
  rfl

/-- **The markers that are left open are determined by the tags.** -/
theorem LeavesOpen.unique {tags : List Tag} {openers others : List Opener}
    (leaves : LeavesOpen tags openers) (again : LeavesOpen tags others) : openers = others :=
  Opener.tag_injective.list_map (leaves.foldl_pushOrPop.symm.trans again.foldl_pushOrPop)

/-! ### Tags that are all read -/

section Reading

variable {rules : Rules}

/-- A marker with a known section opens it. -/
theorem step_opener {tag : Tag} {inverted : Bool} {name : List Char} {kind : Kind}
    (opens : Marker.ofInner tag.inner = .opener inverted name)
    (known : rules.kind? inverted name = some kind) (stack : List Section) :
    rules.step stack tag = .ok (kind.toSection stack name :: stack) := by
  simp only [Rules.step, opens, Rules.section?_eq, known, Option.map_some]

/-- A marker with the name of the innermost section closes it. -/
theorem step_closer {tag : Tag} {entry : Section}
    (closes : Marker.ofInner tag.inner = .closer entry.name) (stack : List Section) :
    rules.step (entry :: stack) tag = .ok stack := by
  simp only [Rules.step, closes, if_true]

/-- Nested tags with known sections are read, and leave open what was open. -/
theorem foldlM_step_tags (tree : SectionTree) (known : rules.Knows tree.tags)
    (stack : List Section) : tree.tags.foldlM rules.step stack = .ok stack := by
  induction tree generalizing stack with
  | done => rfl
  | value tag isVariable rest ih =>
    have here : rules.step stack tag = .ok stack := by simp only [Rules.step, isVariable]
    exact foldlM_cons_ok_iff.mpr ⟨stack, here, ih (known.mono (by simp +contextual)) stack⟩
  | comment tag isComment rest ih =>
    have here : rules.step stack tag = .ok stack := by simp only [Rules.step, isComment]
    exact foldlM_cons_ok_iff.mpr ⟨stack, here, ih (known.mono (by simp +contextual)) stack⟩
  | enclosed opener inverted name opens body closer closes rest ihBody ihRest =>
    obtain ⟨kind, isKind⟩ :=
      Option.isSome_iff_exists.mp (known opener (by simp) inverted name opens)
    have named := Rules.name_toSection isKind stack
    refine foldlM_cons_ok_iff.mpr ⟨_, step_opener opens isKind stack, ?_⟩
    refine foldlM_append_ok_iff.mpr ⟨_, ihBody (known.mono (by simp +contextual)) _, ?_⟩
    refine foldlM_cons_ok_iff.mpr ⟨_, step_closer (named.symm ▸ closes) stack, ?_⟩
    exact ihRest (known.mono (by simp +contextual)) stack

/-- Tags with known sections are read, and the sections that are open have the names of the markers
that are left open. -/
theorem LeavesOpen.foldlM_step {tags : List Tag} {openers : List Opener}
    (leaves : LeavesOpen tags openers) (known : rules.Knows tags) :
    ∃ stack, tags.foldlM rules.step [] = .ok stack ∧
      stack.map Section.name = openers.map Opener.name := by
  induction leaves with
  | nothing tree => exact ⟨[], foldlM_step_tags tree known [], rfl⟩
  | opened outer opener inside ih =>
    obtain ⟨stack, steps, named⟩ := ih (known.mono (by simp +contextual))
    obtain ⟨kind, isKind⟩ := Option.isSome_iff_exists.mp
      (known opener.tag (by simp) opener.inverted opener.name opener.opens)
    refine ⟨kind.toSection stack opener.name :: stack, ?_, ?_⟩
    · refine foldlM_append_ok_iff.mpr ⟨stack, steps, ?_⟩
      refine foldlM_cons_ok_iff.mpr ⟨_, step_opener opener.opens isKind stack, ?_⟩
      exact foldlM_step_tags inside (known.mono (by simp +contextual)) _
    · rw [List.map_cons, List.map_cons, named, Rules.name_toSection isKind]

/-- A tag that is read, where the sections that are open have the names of the markers that are left
open: so they have after it. -/
theorem LeavesOpen.step {tags : List Tag} {openers : List Opener} {stack stack' : List Section}
    {tag : Tag} (leaves : LeavesOpen tags openers)
    (named : stack.map Section.name = openers.map Opener.name)
    (steps : rules.step stack tag = .ok stack') :
    (∀ inverted name, Marker.ofInner tag.inner = .opener inverted name →
        (rules.kind? inverted name).isSome) ∧
      ∃ others, LeavesOpen (tags ++ [tag]) others ∧
        stack'.map Section.name = others.map Opener.name := by
  cases marker : Marker.ofInner tag.inner with
  | «variable» =>
    simp only [Rules.step, marker, Except.ok.injEq] at steps
    subst steps
    exact ⟨by simp, openers, leaves.append (.value tag marker .done), named⟩
  | comment =>
    simp only [Rules.step, marker, Except.ok.injEq] at steps
    subst steps
    exact ⟨by simp, openers, leaves.append (.comment tag marker .done), named⟩
  | unsupported => simp [Rules.step, marker] at steps
  | opener inverted name =>
    cases isKind : rules.kind? inverted name with
    | none => simp [Rules.step, marker, Rules.section?_eq, isKind] at steps
    | some kind =>
      rw [step_opener marker isKind, Except.ok.injEq] at steps
      subst steps
      refine ⟨?_, ⟨tag, inverted, name, marker⟩ :: openers,
        leaves.opened ⟨tag, inverted, name, marker⟩ .done, ?_⟩
      · rintro _ _ ⟨rfl, rfl⟩
        simp [isKind]
      · rw [List.map_cons, List.map_cons, named, Rules.name_toSection isKind]
  | closer name =>
    cases stack with
    | nil => simp [Rules.step, marker] at steps
    | cons entry stack =>
      -- The innermost marker has the name of the innermost section: it is the one that is closed.
      cases openers with
      | nil => simp at named
      | cons opener around =>
        simp only [List.map_cons, List.cons.injEq] at named
        by_cases same : entry.name = name
        · subst same
          rw [step_closer marker, Except.ok.injEq] at steps
          subst steps
          exact ⟨by simp, around, leaves.close (named.1 ▸ marker), named.2⟩
        · simp [Rules.step, marker, same] at steps

/-- Tags that are all read have known sections, and leave a marker open for each section that is
open. -/
theorem exists_leavesOpen (tags : List Tag) :
    ∀ {stack : List Section}, tags.foldlM rules.step [] = .ok stack →
      rules.Knows tags ∧ ∃ openers, LeavesOpen tags openers ∧
        stack.map Section.name = openers.map Opener.name := by
  induction tags using List.reverseRecOn with
  | nil =>
    rintro stack ⟨⟩
    exact ⟨by simp [Rules.Knows], [], .nothing .done, rfl⟩
  | append_singleton tags tag ih =>
    intro stack steps
    obtain ⟨before, steps, last⟩ := foldlM_append_ok_iff.mp steps
    obtain ⟨after, here, ended⟩ := foldlM_cons_ok_iff.mp last
    cases ended
    obtain ⟨known, openers, leaves, named⟩ := ih steps
    obtain ⟨knownHere, others, leaves', named'⟩ := leaves.step named here
    refine ⟨fun other member => ?_, others, leaves', named'⟩
    rcases List.mem_append.mp member with among | isLast
    · exact known other among
    · obtain rfl := List.mem_singleton.mp isLast
      exact knownHere

end Reading

/-! ### The fault of a section that is left open -/

/-- A template is refused for an open section where all its tags are read. -/
theorem compile_eq_unclosed_iff (rules : Rules) (template : List Char) (name : List Char) :
    rules.compile template = .error (.unclosed name) ↔
      (cut template).unended = none ∧ ∃ entry outer,
        (cut template).tags.foldlM rules.step [] = .ok (entry :: outer) ∧ entry.name = name := by
  rw [compile_error_iff]
  constructor
  · intro failed
    cases steps : (cut template).tags.foldlM rules.step [] with
    | ok stack =>
      rcases compileTags_error_of_steps steps failed with
        ⟨_, -, other⟩ | ⟨ended, entry, outer, rfl, same⟩
      · cases other
      · cases same
        exact ⟨ended, entry, outer, rfl, rfl⟩
    | error cause =>
      -- A tag that is refused is what the fault is about.
      obtain ⟨earlier, tag, later, middle, split, read, fails⟩ := exists_first_of_foldlM_error steps
      rw [split, compileTags_of_fault read fails] at failed
      cases failed
      cases tag?_of_step fails
  · rintro ⟨ended, entry, outer, steps, rfl⟩
    obtain ⟨written, compiles⟩ := compileTags_of_steps steps
    have atEnd := compiles [] none
    rw [List.append_nil] at atEnd
    rw [ended, atEnd]
    rfl

/-- The message of a fault tells whether it is about an open section. -/
theorem message_eq_unclosed_iff (fault : MarkerFault) :
    fault.toFault.message = "unclosed block marker" ↔ ∃ name, fault = .unclosed name := by
  cases fault <;> simp [MarkerFault.toFault, Fault.of, Fault.message, Detail.of]

/-- What an opening marker starts with. -/
def sigil (inverted : Bool) : Char :=
  if inverted then '^' else '#'

/-- An opening marker without the white space around its name. -/
def Opener.tidied (opener : Opener) : List Char :=
  markerText (sigil opener.inverted) opener.name

/-- An opening marker has its sigil, and its name with white space around it. -/
theorem Opener.inner_eq (opener : Opener) :
    ∃ written, opener.tag.inner = sigil opener.inverted :: written ∧
      Text.trim written = opener.name := by
  obtain ⟨tag, inverted, name, opens⟩ := opener
  unfold Marker.ofInner at opens
  split at opens <;> cases opens
  · next written isInner => exact ⟨written, isInner, rfl⟩
  · next written isInner => exact ⟨written, isInner, rfl⟩

theorem markerText_sigil_inj {first second : Bool} {name : List Char} :
    markerText (sigil first) name = markerText (sigil second) name ↔ first = second := by
  cases first <;> cases second <;> simp [markerText, sigil]

/-- An opening marker of a template that is left open as the innermost one, given with what comes
before it and after it. -/
structure LeftOpen (template before : String) (opener : Opener) (after : String) : Prop where
  whole : template = before ++ String.ofList opener.tag.text ++ after
  /-- What comes after the marker is nested, so that nothing closes its section, and no section
  inside it stays open. -/
  scanned : ∃ inside : SectionTree,
    (cut template.toList).tags = (cut before.toList).tags ++ opener.tag :: inside.tags
  around : ∃ outer, LeavesOpen (cut before.toList).tags outer
  /-- The marker has its sigil, and its name with white space around it. -/
  spelled : ∃ written, opener.tag.inner = sigil opener.inverted :: written ∧
    Text.trim written = opener.name
  /-- No other marker is left open inside it. -/
  innermost : ∀ other outer, LeavesOpen (cut template.toList).tags (other :: outer) → other = opener

/-- A marker that is left open, at its place in the template. -/
theorem LeavesOpen.exists_leftOpen {template : String} {opener : Opener} {around : List Opener}
    (leaves : LeavesOpen (cut template.toList).tags (opener :: around)) :
    ∃ before after, LeftOpen template before opener after := by
  have isFirst (other : Opener) (outer : List Opener)
      (again : LeavesOpen (cut template.toList).tags (other :: outer)) : other = opener :=
    (List.cons.inj (again.unique leaves)).1
  generalize tags : (cut template.toList).tags = found at leaves
  cases leaves with
  | @opened earlier _ outer _ inside =>
    obtain ⟨before, after, whole, -, cutsBefore, -⟩ := (cutsInto_cut template.toList).upTo tags
    have cutBefore : (cut (String.ofList before).toList).tags = earlier := by
      rw [String.toList_ofList, (cutsInto_cut before).unique cutsBefore]
    refine ⟨String.ofList before, String.ofList after, ?_, ⟨inside, ?_⟩, ⟨around, ?_⟩,
      opener.inner_eq, isFirst⟩
    · rw [← String.toList_inj, whole]
      simp
    · rw [tags, cutBefore]
    · rwa [cutBefore]

/-- **A template is refused for the innermost section that it leaves open**, when every tag has an
end, every section is known, and some section is left open. The fault names this section by a marker
with `#`. This is the opening marker of the section, white space around the name apart, exactly when
the section was not opened as an opposite. -/
theorem unclosed_iff_leftOpen (rules : Rules) (template : String) (fault : MarkerFault) :
    (rules.compile template.toList = .error fault ∧
        fault.toFault.message = "unclosed block marker") ↔
      (cut template.toList).unended = none ∧ rules.Knows (cut template.toList).tags ∧
        ∃ before opener after, LeftOpen template before opener after ∧
          fault = .unclosed opener.name ∧
          ∃ reported, fault.toFault.outermost.parameters =
              [⟨some "marker", String.ofList reported⟩] ∧
            (reported = opener.tidied ↔ opener.inverted = false) := by
  constructor
  · rintro ⟨refused, about⟩
    obtain ⟨name, rfl⟩ := (message_eq_unclosed_iff fault).mp about
    obtain ⟨ended, entry, stack, steps, rfl⟩ := (compile_eq_unclosed_iff ..).mp refused
    obtain ⟨known, openers, leaves, named⟩ := exists_leavesOpen _ steps
    cases openers with
    | nil => simp at named
    | cons opener around =>
      obtain ⟨before, after, leftOpen⟩ := leaves.exists_leftOpen
      simp only [List.map_cons, List.cons.injEq] at named
      refine ⟨ended, known, before, opener, after, leftOpen, by rw [named.1],
        markerText (sigil false) opener.name, by rw [named.1]; rfl, ?_⟩
      rw [Opener.tidied, markerText_sigil_inj, eq_comm]
  · rintro ⟨ended, known, before, opener, after, leftOpen, rfl, -⟩
    obtain ⟨outer, leaves⟩ := leftOpen.around
    obtain ⟨inside, scanned⟩ := leftOpen.scanned
    have stillOpen : LeavesOpen (cut template.toList).tags (opener :: outer) := by
      rw [scanned]
      exact leaves.opened opener inside
    obtain ⟨stack, steps, named⟩ := stillOpen.foldlM_step known
    cases stack with
    | nil => simp at named
    | cons entry stack =>
      simp only [List.map_cons, List.cons.injEq] at named
      exact ⟨(compile_eq_unclosed_iff ..).mpr ⟨ended, entry, stack, steps, named.1⟩,
        (message_eq_unclosed_iff _).mpr ⟨_, rfl⟩⟩

/-- A section of a flag, and then its opposite, which is left open. -/
def oppositeTemplate : String :=
  "\x7b\x7b#old\x7d\x7d \x7b\x7b/old\x7d\x7d\x7b\x7b^old\x7d\x7d"

theorem cut_oppositeTemplate :
    cut oppositeTemplate.toList =
      ⟨[], [⟨1, "#old".toList, [' ']⟩, ⟨1, "/old".toList, []⟩, ⟨1, "^old".toList, []⟩], none⟩ := by
  cbv

/-- The marker that is left open in it. -/
def oppositeOpener : Opener :=
  ⟨⟨1, "^old".toList, []⟩, true, "old".toList, rfl⟩

theorem leavesOpen_oppositeTemplate :
    LeavesOpen (cut oppositeTemplate.toList).tags [oppositeOpener] := by
  rw [cut_oppositeTemplate]
  exact .opened (.nothing (.enclosed ⟨1, "#old".toList, [' ']⟩ false "old".toList rfl .done
    ⟨1, "/old".toList, []⟩ rfl .done)) oppositeOpener .done

/-- **An opposite that is left open is reported as the section itself**, which is closed in the same
template. -/
theorem oppositeTemplate_misreported :
    let fault := MarkerFault.unclosed "old".toList
    (⟨[("old", true)], none⟩ : Rules).compile oppositeTemplate.toList = .error fault ∧
      fault.toFault.message = "unclosed block marker" ∧
      fault.toFault.outermost.parameters = [⟨some "marker", "\x7b\x7b#old\x7d\x7d"⟩] ∧
      ¬ ∃ opener around, LeavesOpen (cut oppositeTemplate.toList).tags (opener :: around) ∧
        fault.toFault.outermost.parameters = [⟨some "marker", String.ofList opener.tidied⟩] := by
  intro fault
  have isSection : Rules.kind? ⟨[("old", true)], none⟩ false "old".toList = some (.flag true) := by
    cbv
  have isOpposite : Rules.kind? ⟨[("old", true)], none⟩ true "old".toList = some (.flag false) := by
    cbv
  have refused : (⟨[("old", true)], none⟩ : Rules).compile oppositeTemplate.toList =
      .error fault := by
    rw [compile_error_iff, cut_oppositeTemplate, compileTags_opener _ _ _ _ rfl isSection,
      compileTags_closer _ _ _ _ rfl rfl, compileTags_opener _ _ _ _ rfl isOpposite]
    rfl
  refine ⟨refused, rfl, rfl, ?_⟩
  rintro ⟨opener, around, leaves, reported⟩
  obtain ⟨rfl, -⟩ := List.cons.inj (leaves.unique leavesOpen_oppositeTemplate)
  have same : markerText (sigil false) "old".toList = markerText (sigil true) "old".toList := by
    simpa [fault, MarkerFault.toFault, Fault.of, Detail.of, Opener.tidied, oppositeOpener, sigil,
      String.ofList_inj] using reported
  cases markerText_sigil_inj.mp same

end CatalogPages.Markers
