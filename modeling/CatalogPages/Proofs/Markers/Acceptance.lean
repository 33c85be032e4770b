/-
**Which templates are accepted.**

A template is accepted by its markers alone: what a flag is set to, and so what is hidden, decides
nothing, and no more does the encoding.

* `Acceptable`: every tag has an end and is supported, every section that is opened has a name that
  is known, and the markers are properly nested;
* `accepted_iff_acceptable`: these are the templates that are accepted, and two compilers that know
  the same flags accept the same templates and refuse the others for the same reason.
-/

import CatalogPages.Proofs.Markers.Cutting
import CatalogPages.Proofs.Markers.Denotation
import Mathlib

namespace CatalogPages.Markers

/-! ### Names that are known -/

/-- A name of a flag. -/
def Rules.Declares (rules : Rules) (name : List Char) : Prop :=
  (rules.flags.lookup (String.ofList name)).isSome

/-- The names that open a section of every template. -/
def standardNames : List (List Char) :=
  ["categorized", "alphabetic", "libraries", "authors"].map String.toList

theorem isSome_lookup_standard (name : List Char) :
    (Kind.standard.lookup (String.ofList name)).isSome ↔ name ∈ standardNames := by
  simp only [List.lookup_isSome_iff, Kind.standard, standardNames, List.mem_map]
  constructor
  · rintro ⟨entry, member, same⟩
    refine ⟨entry.1, ?_, ((eq_toList_iff name entry.1).mpr (beq_iff_eq.mp same)).symm⟩
    simp only [List.mem_cons, List.not_mem_nil, or_false] at member
    rcases member with rfl | rfl | rfl | rfl <;> simp
  · rintro ⟨word, member, same⟩
    have isWord : String.ofList name = word := (eq_toList_iff name word).mp same.symm
    simp only [List.mem_cons, List.not_mem_nil, or_false] at member
    rcases member with rfl | rfl | rfl | rfl
    · exact ⟨("categorized", .categorized), by simp, by simp [isWord]⟩
    · exact ⟨("alphabetic", .alphabetic), by simp, by simp [isWord]⟩
    · exact ⟨("libraries", .libraries), by simp, by simp [isWord]⟩
    · exact ⟨("authors", .authors), by simp, by simp [isWord]⟩

/-- A marker opens a section if it names a flag, or if it is not inverted and names a section of
every template. -/
theorem Rules.isSome_kind?_iff (rules : Rules) (inverted : Bool) (name : List Char) :
    (rules.kind? inverted name).isSome ↔
      rules.Declares name ∨ inverted = false ∧ name ∈ standardNames := by
  unfold Rules.kind? Rules.Declares
  cases rules.flags.lookup (String.ofList name) with
  | some value => simp
  | none =>
    cases inverted with
    | false => simpa using isSome_lookup_standard name
    | true => simp

/-! ### Accepted templates -/

/-- What the parts of a template must be like. -/
structure Acceptable (rules : Rules) (parts : Cut) : Prop where
  /-- Every tag that is reached has an end. -/
  ended : parts.unended = none
  supported : ∀ tag ∈ parts.tags, ∀ c ∈ tag.inner.head?, c ∉ ['&', '>', '<', '=', '\x7b']
  openers : ∀ tag ∈ parts.tags, ∀ name, Marker.ofInner tag.inner = .opener false name →
    rules.Declares name ∨ name ∈ standardNames
  inverted : ∀ tag ∈ parts.tags, ∀ name, Marker.ofInner tag.inner = .opener true name →
    rules.Declares name
  nested : Nested (parts.tags.filterMap Tag.bracket?)

/-- A tag is unsupported by its first character. -/
theorem ofInner_eq_unsupported_iff (inner : List Char) :
    Marker.ofInner inner = .unsupported ↔
      ∃ c ∈ inner.head?, c ∈ ['&', '>', '<', '=', '\x7b'] := by
  cases inner with
  | nil => simp [Marker.ofInner]
  | cons c rest =>
    unfold Marker.ofInner
    split <;> simp_all

/-- The conditions on names, on both kinds of opening markers at once. -/
theorem knows_iff (rules : Rules) (tags : List Tag) :
    rules.Knows tags ↔
      (∀ tag ∈ tags, ∀ name, Marker.ofInner tag.inner = .opener false name →
        rules.Declares name ∨ name ∈ standardNames) ∧
      ∀ tag ∈ tags, ∀ name, Marker.ofInner tag.inner = .opener true name →
        rules.Declares name := by
  simp only [Rules.Knows, Rules.isSome_kind?_iff]
  constructor
  · intro known
    refine ⟨fun tag member name opens => ?_, fun tag member name opens => ?_⟩
    · simpa using known tag member false name opens
    · simpa using known tag member true name opens
  · rintro ⟨plain, opposite⟩ tag member (_ | _) name opens
    · simpa using plain tag member name opens
    · exact .inl (opposite tag member name opens)

/-- Tags that close the sections on a stack one after another, and leave nothing open. -/
inductive Closes : List Section → List Tag → Prop
  | done (tree : SectionTree) : Closes [] tree.tags
  | close {stack : List Section} {more : List Tag} (entry : Section) (body : SectionTree)
      (closer : Tag) (closes : Marker.ofInner closer.inner = .closer entry.name)
      (after : Closes stack more) : Closes (entry :: stack) (body.tags ++ closer :: more)

/-- A tree may stand before tags that close a stack. -/
theorem Closes.prepend {stack : List Section} {tags : List Tag} (tree : SectionTree)
    (closes : Closes stack tags) : Closes stack (tree.tags ++ tags) := by
  cases closes with
  | done rest => exact SectionTree.tags_append tree rest ▸ .done (tree.append rest)
  | close entry body closer closes after =>
    rw [← List.append_assoc, ← SectionTree.tags_append]
    exact .close entry (tree.append body) closer closes after

theorem Rules.Knows.cons {rules : Rules} {tag : Tag} {tags : List Tag} (known : rules.Knows tags)
    (here : ∀ inverted name, Marker.ofInner tag.inner = .opener inverted name →
      (rules.kind? inverted name).isSome) : rules.Knows (tag :: tags) := by
  intro other member
  rcases List.mem_cons.mp member with rfl | later
  · exact here
  · exact known other later

/-- A result that has been changed was one. -/
theorem ok_of_map_eq_ok {α β ε : Type} {f : α → β} {result : Except ε α} {value : β}
    (mapped : result.map f = .ok value) : ∃ before, result = .ok before ∧ f before = value := by
  cases result with
  | ok before => exact ⟨before, rfl, Except.ok.inj mapped⟩
  | error fault => cases mapped

/-- **What is accepted has a section tree.** The sections that are open where the compiler stands
are closed by the tags that it goes on to accept. -/
theorem closes_of_compileTags_ok {rules : Rules} {unended : Option OpenTag} (tags : List Tag) :
    ∀ {stack : List Section} {text : List Char},
      rules.compileTags stack tags unended = .ok text →
        unended = none ∧ rules.Knows tags ∧ Closes stack tags := by
  induction tags with
  | nil =>
    intro stack text accepted
    cases unended with
    | some tag => cases stack <;> simp [Rules.compileTags] at accepted
    | none =>
      cases stack with
      | nil => exact ⟨rfl, by simp [Rules.Knows], .done .done⟩
      | cons entry stack => simp [Rules.compileTags] at accepted
  | cons tag tags ih =>
    intro stack text accepted
    cases marker : Marker.ofInner tag.inner with
    | «variable» =>
      rw [compileTags_value _ _ _ _ marker] at accepted
      obtain ⟨rest, accepted, -⟩ := ok_of_map_eq_ok accepted
      obtain ⟨ended, known, closes⟩ := ih accepted
      exact ⟨ended, known.cons (by simp [marker]), closes.prepend (.value tag marker .done)⟩
    | comment =>
      rw [compileTags_comment _ _ _ _ marker] at accepted
      obtain ⟨rest, accepted, -⟩ := ok_of_map_eq_ok accepted
      obtain ⟨ended, known, closes⟩ := ih accepted
      exact ⟨ended, known.cons (by simp [marker]), closes.prepend (.comment tag marker .done)⟩
    | unsupported =>
      rw [compileTags_unsupported _ _ _ _ marker] at accepted
      cases accepted
    | opener inverted name =>
      cases isKind : rules.kind? inverted name with
      | none =>
        rw [compileTags_opener_unknown _ _ _ _ marker isKind] at accepted
        cases accepted
      | some kind =>
        rw [compileTags_opener _ _ _ _ marker isKind] at accepted
        obtain ⟨rest, accepted, -⟩ := ok_of_map_eq_ok accepted
        obtain ⟨ended, known, closes⟩ := ih accepted
        refine ⟨ended, known.cons ?_, ?_⟩
        · intro inverted' name' opens
          rw [marker] at opens
          cases opens
          simp [isKind]
        · -- The section that is opened here is the first one that is closed after it.
          cases closes with
          | close _ body closer closes after =>
            rw [Rules.name_toSection isKind stack] at closes
            simpa using after.prepend (.enclosed tag inverted name marker body closer closes .done)
    | closer name =>
      cases stack with
      | nil =>
        rw [compileTags_closer_nothing _ _ _ marker] at accepted
        cases accepted
      | cons entry stack =>
        by_cases named : entry.name = name
        · rw [compileTags_closer _ _ _ _ marker named] at accepted
          obtain ⟨rest, accepted, -⟩ := ok_of_map_eq_ok accepted
          obtain ⟨ended, known, closes⟩ := ih accepted
          exact ⟨ended, known.cons (by simp [marker]),
            .close entry .done tag (named ▸ marker) closes⟩
        · rw [compileTags_closer_other _ _ _ _ marker named] at accepted
          cases accepted

/-- The text of a tree is what its tags become when nothing is open. -/
theorem compileTags_nil_tags (rules : Rules) (tree : SectionTree) (known : rules.Knows tree.tags) :
    rules.compileTags [] tree.tags none = .ok (tree.text rules false) := by
  have compiled := compileTags_tags rules tree known [] [] none
  simpa [Rules.compileTags, Except.map] using compiled

/-- What tags become where all of them are read: the text of their section tree. -/
theorem compileTags_ok_iff (rules : Rules) (tags : List Tag) (unended : Option OpenTag)
    (text : List Char) :
    rules.compileTags [] tags unended = .ok text ↔
      unended = none ∧ rules.Knows tags ∧
        ∃ tree : SectionTree, tree.tags = tags ∧ tree.text rules false = text := by
  constructor
  · intro accepted
    obtain ⟨rfl, known, closes⟩ := closes_of_compileTags_ok tags accepted
    cases closes with
    | done tree =>
      rw [compileTags_nil_tags rules tree known] at accepted
      exact ⟨rfl, known, tree, rfl, Except.ok.inj accepted⟩
  · rintro ⟨rfl, known, tree, rfl, rfl⟩
    exact compileTags_nil_tags rules tree known

theorem compileText_eq (rules : Rules) (template : List Char) :
    rules.compileText template =
      (rules.compileTags [] (cut template).tags (cut template).unended).map
        ((cut template).lead ++ ·) := by
  simp only [Rules.compileText]
  cases rules.compileTags [] (cut template).tags (cut template).unended <;> rfl

/-- What a template becomes, by its section tree. -/
theorem compileText_ok_iff (rules : Rules) (template text : List Char) :
    rules.compileText template = .ok text ↔
      (cut template).unended = none ∧ rules.Knows (cut template).tags ∧
        ∃ tree : SectionTree, tree.tags = (cut template).tags ∧
          text = (cut template).lead ++ tree.text rules false := by
  rw [compileText_eq]
  constructor
  · intro mapped
    obtain ⟨after, compiled, rfl⟩ := ok_of_map_eq_ok mapped
    obtain ⟨ended, known, tree, same, rfl⟩ := (compileTags_ok_iff ..).mp compiled
    exact ⟨ended, known, tree, same, rfl⟩
  · rintro ⟨ended, known, tree, same, rfl⟩
    rw [(compileTags_ok_iff ..).mpr ⟨ended, known, tree, same, rfl⟩]
    rfl

/-- A template is accepted if its parts are acceptable, and only then. -/
theorem exists_compile_ok_iff (rules : Rules) (template : List Char) :
    (∃ out, rules.compile template = .ok out) ↔ Acceptable rules (cut template) := by
  have renamed : (∃ out, rules.compile template = .ok out) ↔
      ∃ text, rules.compileText template = .ok text := by
    unfold Rules.compile
    cases rules.compileText template <;> simp [Except.map]
  have supported_iff : (∀ tag ∈ (cut template).tags, Marker.ofInner tag.inner ≠ .unsupported) ↔
      ∀ tag ∈ (cut template).tags, ∀ c ∈ tag.inner.head?, c ∉ ['&', '>', '<', '=', '\x7b'] := by
    simp only [Ne, ofInner_eq_unsupported_iff, not_exists, not_and]
  rw [renamed]
  simp only [compileText_ok_iff]
  constructor
  · rintro ⟨_, ended, known, tree, same, -⟩
    obtain ⟨supported, nested⟩ := (exists_tree_iff_nested _).mp ⟨tree, same⟩
    obtain ⟨openers, inverted⟩ := (knows_iff ..).mp known
    exact ⟨ended, supported_iff.mp supported, openers, inverted, nested⟩
  · rintro ⟨ended, supported, openers, inverted, nested⟩
    obtain ⟨tree, same⟩ :=
      (exists_tree_iff_nested _).mpr ⟨supported_iff.mpr supported, nested⟩
    exact ⟨_, ended, (knows_iff ..).mpr ⟨openers, inverted⟩, tree, same, rfl⟩

/-! ### What flags are set to -/

/-- Two compilers know the same flags. -/
def Rules.SameFlags (first second : Rules) : Prop :=
  ∀ name : String, (first.flags.lookup name).isSome = (second.flags.lookup name).isSome

/-- What is known does not hang on what a flag is set to. -/
theorem Rules.SameFlags.isSome_kind? {first second : Rules} (same : first.SameFlags second)
    (inverted : Bool) (name : List Char) :
    (first.kind? inverted name).isSome = (second.kind? inverted name).isSome := by
  rw [Bool.eq_iff_iff, isSome_kind?_iff, isSome_kind?_iff, Declares, Declares, same]

/-- **Compilers that know the same flags fail alike**, wherever the sections that are open have the
same names. -/
theorem compileTags_sameFlags {first second : Rules} (same : first.SameFlags second)
    (unended : Option OpenTag) (tags : List Tag) :
    ∀ {stack stack' : List Section}, stack.map Section.name = stack'.map Section.name →
      (first.compileTags stack tags unended).map (fun _ => ()) =
        (second.compileTags stack' tags unended).map fun _ => () := by
  have map_unit {f : List Char → List Char} (result : Except MarkerFault (List Char)) :
      (result.map f).map (fun _ => ()) = result.map fun _ => () := by
    cases result <;> rfl
  induction tags with
  | nil =>
    intro stack stack' alike
    cases unended with
    | some tag => cases stack <;> cases stack' <;> rfl
    | none =>
      cases stack with
      | nil =>
        rw [List.map_nil, eq_comm, List.map_eq_nil_iff] at alike
        subst alike
        rfl
      | cons entry stack =>
        cases stack' with
        | nil => simp at alike
        | cons entry' stack' =>
          simp only [List.map_cons, List.cons.injEq] at alike
          simp only [Rules.compileTags, alike.1]
  | cons tag tags ih =>
    intro stack stack' alike
    cases marker : Marker.ofInner tag.inner with
    | «variable» =>
      rw [compileTags_value _ _ _ _ marker, compileTags_value _ _ _ _ marker, map_unit, map_unit]
      exact ih alike
    | comment =>
      rw [compileTags_comment _ _ _ _ marker, compileTags_comment _ _ _ _ marker, map_unit,
        map_unit]
      exact ih alike
    | unsupported =>
      rw [compileTags_unsupported _ _ _ _ marker, compileTags_unsupported _ _ _ _ marker]
    | opener inverted name =>
      have both := same.isSome_kind? inverted name
      cases isKind : first.kind? inverted name with
      | none =>
        have isKind' : second.kind? inverted name = none := by simpa [isKind] using both
        rw [compileTags_opener_unknown _ _ _ _ marker isKind,
          compileTags_opener_unknown _ _ _ _ marker isKind']
      | some kind =>
        obtain ⟨kind', isKind'⟩ : ∃ kind', second.kind? inverted name = some kind' :=
          Option.isSome_iff_exists.mp (by simpa [isKind] using both.symm)
        rw [compileTags_opener _ _ _ _ marker isKind, compileTags_opener _ _ _ _ marker isKind',
          map_unit, map_unit]
        refine ih ?_
        rw [List.map_cons, List.map_cons, Rules.name_toSection isKind,
          Rules.name_toSection isKind', alike]
    | closer name =>
      cases stack with
      | nil =>
        rw [List.map_nil, eq_comm, List.map_eq_nil_iff] at alike
        subst alike
        rw [compileTags_closer_nothing _ _ _ marker, compileTags_closer_nothing _ _ _ marker]
      | cons entry stack =>
        cases stack' with
        | nil => simp at alike
        | cons entry' stack' =>
          simp only [List.map_cons, List.cons.injEq] at alike
          by_cases named : entry.name = name
          · rw [compileTags_closer _ _ _ _ marker named,
              compileTags_closer _ _ _ _ marker (alike.1 ▸ named), map_unit, map_unit]
            exact ih alike.2
          · rw [compileTags_closer_other _ _ _ _ marker named,
              compileTags_closer_other _ _ _ _ marker (alike.1 ▸ named), alike.1]

/-- **A template is accepted by its markers alone**, and compilers that know the same flags accept
it or refuse it together, with one fault. -/
theorem accepted_iff_acceptable (rules : Rules) (template : List Char) :
    CutsInto 1 template (cut template) ∧
      ((∃ out, rules.compile template = .ok out) ↔ Acceptable rules (cut template)) ∧
      ∀ other : Rules, rules.SameFlags other →
        (∃ out out', rules.compile template = .ok out ∧ other.compile template = .ok out') ∨
        ∃ fault, rules.compile template = .error fault ∧ other.compile template = .error fault := by
  refine ⟨cutsInto_cut template, exists_compile_ok_iff rules template, fun other same => ?_⟩
  have alike := compileTags_sameFlags same (cut template).unended (cut template).tags
    (rfl : ([] : List Section).map Section.name = ([] : List Section).map Section.name)
  simp only [Rules.compile, compileText_eq]
  cases compiled : rules.compileTags [] (cut template).tags (cut template).unended with
  | ok text =>
    cases compiled' : other.compileTags [] (cut template).tags (cut template).unended with
    | ok text' => exact .inl ⟨_, _, rfl, rfl⟩
    | error fault => simp [compiled, compiled', Except.map] at alike
  | error fault =>
    cases compiled' : other.compileTags [] (cut template).tags (cut template).unended with
    | ok text' => simp [compiled, compiled', Except.map] at alike
    | error fault' =>
      rw [compiled, compiled'] at alike
      cases alike
      exact .inr ⟨fault, rfl, rfl⟩

/-- A section that nothing closes is refused for one reason, whether a flag hides it or not. -/
theorem accepted_iff_acceptable_unclosed :
    Rules.SameFlags ⟨[("old", false)], none⟩ ⟨[("old", true)], some ("utf-8", "UTF-8")⟩ ∧
      ∃ fault,
        Rules.compile ⟨[("old", false)], none⟩ "\x7b\x7b#old\x7d\x7d".toList = .error fault ∧
        Rules.compile ⟨[("old", true)], some ("utf-8", "UTF-8")⟩ "\x7b\x7b#old\x7d\x7d".toList =
          .error fault := by
  have same : Rules.SameFlags ⟨[("old", false)], none⟩
      ⟨[("old", true)], some ("utf-8", "UTF-8")⟩ := by
    intro name
    simp only [List.lookup_cons, List.lookup_nil]
    cases name == "old" <;> rfl
  have hidden : Rules.kind? ⟨[("old", false)], none⟩ false "old".toList = some (.flag false) := by
    cbv
  have parts : cut "\x7b\x7b#old\x7d\x7d".toList = ⟨[], [⟨1, "#old".toList, []⟩], none⟩ := by cbv
  refine ⟨same, ((accepted_iff_acceptable _ _).2.2 _ same).resolve_left ?_⟩
  rintro ⟨out, -, accepted, -⟩
  rw [Rules.compile, compileText_eq, parts, compileTags_opener _ _ _ _ rfl hidden] at accepted
  cases accepted

end CatalogPages.Markers
