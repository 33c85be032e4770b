/-
**What an accepted template becomes.**

A template is cut at its braces, and the tags of an accepted one have one section tree. It becomes
the text of this tree after the text before its first tag. Then the first name of the encoding is
exchanged.

* `Recoded`: a text with the first name of an encoding exchanged;
* `compile_eq_text`: what a template becomes.
-/

import CatalogPages.Proofs.Markers.Acceptance

namespace CatalogPages.Markers

/-- A text, and what it is with the first name of an encoding exchanged. An empty name stands for
nothing. -/
inductive Recoded : Option (String × String) → List Char → List Char → Prop
  | unnamed (text : List Char) : Recoded none text text
  | empty (after : String) (text : List Char) : Recoded (some ("", after)) text text
  | missing {before : String} {text : List Char} (after : String)
      (absent : ¬ before.toList <:+: text) : Recoded (some (before, after)) text text
  | found {before : String} {text front back : List Char} (after : String) (named : before ≠ "")
      (first : Text.FirstAt before.toList text front back) :
      Recoded (some (before, after)) text (front ++ after.toList ++ back)

theorem recoded_rename (rules : Rules) (text : List Char) :
    Recoded rules.charset text (rules.rename text) := by
  unfold Rules.rename
  cases rules.charset with
  | none => exact .unnamed text
  | some names =>
    obtain ⟨before, after⟩ := names
    by_cases named : before = ""
    · subst named
      exact .empty after text
    · have holds : before.isEmpty = false := by simpa using named
      simp only [holds, Bool.false_eq_true, if_false]
      by_cases occurs : before.toList <:+: text
      · obtain ⟨front, back, first⟩ := Text.exists_firstAt occurs
        rw [Text.replaceFirst_of_firstAt after.toList first]
        exact .found after named first
      · rw [Text.replaceFirst_of_not_infix after.toList occurs]
        exact .missing after occurs

/-- The encoding decides nothing about the text of a tree. -/
theorem SectionTree.text_charset (rules : Rules) (charset : Option (String × String))
    (inCategory : Bool) (tree : SectionTree) :
    tree.text { rules with charset } inCategory = tree.text rules inCategory := by
  have kinds (inverted : Bool) (name : List Char) :
      ({ rules with charset } : Rules).kind? inverted name = rules.kind? inverted name := rfl
  induction tree generalizing inCategory with
  | done => rfl
  | value tag isVariable rest ih => simp only [text, ih]
  | comment tag isComment rest ih => simp only [text, ih]
  | enclosed opener inverted name opens body closer closes rest ihBody ihRest =>
    simp only [text, kinds, ihBody, ihRest]

/-- **What an accepted template becomes** is the text of its section tree, of which there is one,
after the text before its first tag; and then the first name of the encoding is exchanged. -/
theorem compile_eq_text (rules : Rules) (template out : List Char)
    (accepted : rules.compile template = .ok out) :
    CutsInto 1 template (cut template) ∧ ∃ tree : SectionTree, tree.tags = (cut template).tags ∧
      (∀ other : SectionTree, other.tags = (cut template).tags → other = tree) ∧
      (cut template).unended = none ∧
      { rules with charset := none }.compile template =
        .ok ((cut template).lead ++ tree.text rules false) ∧
      Recoded rules.charset ((cut template).lead ++ tree.text rules false) out := by
  obtain ⟨text, compiled, rfl⟩ := ok_of_map_eq_ok accepted
  obtain ⟨ended, known, tree, same, rfl⟩ := (compileText_ok_iff ..).mp compiled
  refine ⟨cutsInto_cut template, tree, same,
    fun other same' => SectionTree.tags_injective (same'.trans same.symm), ended, ?_,
    recoded_rename rules _⟩
  have plain : { rules with charset := none }.compileText template =
      .ok ((cut template).lead ++ tree.text rules false) :=
    (compileText_ok_iff ..).mpr ⟨ended, known, tree, same,
      by rw [SectionTree.text_charset rules none]⟩
  simp only [Rules.compile, plain]
  rfl

/-! ### Sections that have a kind -/

/-- A tree whose sections are all known. -/
def SectionTree.Known (rules : Rules) : SectionTree → Prop
  | done => True
  | value _ _ rest | comment _ _ rest => rest.Known rules
  | enclosed _ inverted name _ body _ _ rest =>
    (rules.kind? inverted name).isSome ∧ body.Known rules ∧ rest.Known rules

theorem SectionTree.Known.knows {rules : Rules} {tree : SectionTree} (known : tree.Known rules) :
    rules.Knows tree.tags := by
  induction tree with
  | done => simp [Rules.Knows]
  | value tag isVariable rest ih =>
    refine (ih known).cons fun inverted name opens => ?_
    cases isVariable.symm.trans opens
  | comment tag isComment rest ih =>
    refine (ih known).cons fun inverted name opens => ?_
    cases isComment.symm.trans opens
  | enclosed opener inverted name opens body closer closes rest ihBody ihRest =>
    obtain ⟨isKind, knownBody, knownRest⟩ := known
    have after : rules.Knows (closer :: rest.tags) := by
      refine (ihRest knownRest).cons fun inverted name opens => ?_
      cases closes.symm.trans opens
    have inside := ihBody knownBody
    have later : rules.Knows (body.tags ++ closer :: rest.tags) := by
      intro tag member
      rcases List.mem_append.mp member with among | among
      · exact inside tag among
      · exact after tag among
    refine later.cons fun inverted' name' opens' => ?_
    obtain ⟨rfl, rfl⟩ := Marker.opener.inj (opens.symm.trans opens')
    exact isKind

/-- A template whose tags make such a tree is accepted. -/
theorem compile_of_known {rules : Rules} {template : List Char} {tree : SectionTree}
    (unnamed : rules.charset = none) (ended : (cut template).unended = none)
    (same : tree.tags = (cut template).tags) (known : tree.Known rules) :
    rules.compile template = .ok ((cut template).lead ++ tree.text rules false) := by
  have compiled : rules.compileText template =
      .ok ((cut template).lead ++ tree.text rules false) := by
    refine (compileText_ok_iff ..).mpr ⟨ended, ?_, tree, same, rfl⟩
    rw [← same]
    exact known.knows
  rw [Rules.compile, compiled]
  simp [Except.map, Rules.rename, unnamed]

/-- A flag that is not set, and an encoding that is called by another name. -/
def releaseRules : Rules :=
  ⟨[("old", false)], some ("utf-8", "UTF-8")⟩

/-- A loop in a section that is hidden, a section that is shown, and a loop in another loop. The
encoding is named before and after them. -/
def releaseTemplate : List Char :=
  "utf-8\n\x7b\x7b#old\x7d\x7d\n".toList ++
    "\x7b\x7b#libraries\x7d\x7d\x7b\x7bname\x7d\x7d\x7b\x7b/libraries\x7d\x7d".toList ++
    "\x7b\x7b/old\x7d\x7d\n".toList ++
    "\x7b\x7b^old\x7d\x7d\x7b\x7btitle\x7d\x7d \x7b\x7b/old\x7d\x7d".toList ++
    "\x7b\x7b#categorized\x7d\x7d\n\x7b\x7btitle\x7d\x7d:".toList ++
    "\x7b\x7b#libraries\x7d\x7d\x7b\x7bname\x7d\x7d,\x7b\x7b/libraries\x7d\x7d\n".toList ++
    "\x7b\x7b/categorized\x7d\x7dutf-8".toList

/-- What it becomes, with the statements of the loops written out. -/
def releaseText : List Char :=
  "UTF-8\n\x7b\x7btitle\x7d\x7d ".toList ++
    "\x7b% for category in categories %\x7d\x7b% set key = category.key %\x7d".toList ++
    "\x7b% set name = category.key %\x7d".toList ++
    "\x7b% set title = category.title %\x7d".toList ++
    "\x7b\x7btitle\x7d\x7d:".toList ++
    "\x7b% for library in category.libraries %\x7d".toList ++
    "\x7b% set key = library.key %\x7d".toList ++
    "\x7b% set name = library.name %\x7d".toList ++
    "\x7b% set authors = library.authors_formatted %\x7d".toList ++
    "\x7b% set link = library.documentation_link %\x7d".toList ++
    "\x7b% set description = library.description_clean %\x7d".toList ++
    "\x7b\x7bname\x7d\x7d,".toList ++
    "\x7b% endfor %\x7d\x7b% endfor %\x7dutf-8".toList

theorem cut_releaseTemplate :
    cut releaseTemplate =
      ⟨"utf-8\n".toList, [⟨2, "#old".toList, ['\n']⟩, ⟨3, "#libraries".toList, []⟩,
        ⟨3, "name".toList, []⟩, ⟨3, "/libraries".toList, []⟩, ⟨3, "/old".toList, ['\n']⟩,
        ⟨4, "^old".toList, []⟩, ⟨4, "title".toList, [' ']⟩, ⟨4, "/old".toList, []⟩,
        ⟨4, "#categorized".toList, ['\n']⟩, ⟨5, "title".toList, [':']⟩,
        ⟨5, "#libraries".toList, []⟩, ⟨5, "name".toList, [',']⟩, ⟨5, "/libraries".toList, ['\n']⟩,
        ⟨6, "/categorized".toList, "utf-8".toList⟩], none⟩ := by
  cbv

theorem compile_releaseTemplate : releaseRules.compile releaseTemplate = .ok releaseText := by
  rw [Rules.compile, compileText_eq, cut_releaseTemplate]
  decide +kernel

/-- A template of a release becomes the text of its tree, with its encoding exchanged. -/
theorem compile_eq_text_releaseTemplate :
    releaseRules.compile releaseTemplate = .ok releaseText ∧
      ∃ tree : SectionTree, tree.tags = (cut releaseTemplate).tags ∧
        Recoded releaseRules.charset ((cut releaseTemplate).lead ++ tree.text releaseRules false)
          releaseText := by
  obtain ⟨-, tree, same, -, -, -, recoded⟩ :=
    compile_eq_text releaseRules releaseTemplate _ compile_releaseTemplate
  exact ⟨compile_releaseTemplate, tree, same, recoded⟩

end CatalogPages.Markers
