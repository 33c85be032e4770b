/-
**Where a template is refused.**

The tags of a template are read one after another. Each opens a section, closes one, or leaves open
what is open, and a template is refused for the first tag that does none of these. What comes after
this tag makes no difference.

* `Rules.step`: what is open after a tag, or the fault of the tag;
* `compileTags_of_steps`, `compileTags_of_fault`: tags up to the first fault, whatever follows them;
* `compileTags_error_of_steps`: what can be wrong where all tags are read;
* `CutsInto.upTo`: a template up to one of its tags is cut alone as it is cut in the whole;
* `Rules.Blames`, `refused_for_tag`: the tag that a fault reports is the first one that is refused,
  and every template that agrees up to its end is refused with the same fault.
-/

import CatalogPages.Proofs.Markers.Acceptance
import CatalogPages.Proofs.Markers.Effect
import CatalogPages.Proofs.Success

namespace CatalogPages.Markers

/-! ### One tag -/

/-- What is open after a tag, or why the tag is refused. -/
def Rules.step (rules : Rules) (stack : List Section) (tag : Tag) :
    Except MarkerFault (List Section) :=
  match Marker.ofInner tag.inner with
  | .variable | .comment => .ok stack
  | .opener inverted name =>
    match rules.section? stack inverted name with
    | some entry => .ok (entry :: stack)
    | none => .error (.unknownSection tag.text tag.line)
  | .closer name =>
    match stack with
    | [] => .error (.nothingOpen tag.text tag.line)
    | entry :: stack =>
      if entry.name = name then .ok stack else .error (.mismatch entry.name tag.text tag.line)
  | .unsupported => .error (.unsupported tag.text tag.line)

/-- The tag that a fault is about, as it stands in the template, and the line on which it starts. A
tag that has no end is none, and no more is what is missing at the end. -/
def MarkerFault.tag? : MarkerFault → Option (List Char × Nat)
  | unsupported tag line | unknownSection tag line | nothingOpen tag line | mismatch _ tag line =>
    some (tag, line)
  | unended _ | unclosed _ => none

variable {rules : Rules} {stack stack' : List Section} {tag : Tag} {fault : MarkerFault}

/-- The fault of a tag is about this tag. -/
theorem tag?_of_step (fails : rules.step stack tag = .error fault) :
    fault.tag? = some (tag.text, tag.line) := by
  unfold Rules.step at fails
  split at fails
  · cases fails
  · cases fails
  · split at fails
    · cases fails
    · cases fails
      rfl
  · split at fails
    · cases fails
      rfl
    · split at fails
      · cases fails
      · cases fails
        rfl
  · cases fails
    rfl

/-- A tag is read by what is in it and by its line alone. -/
theorem step_congr {other : Tag} (sameInner : other.inner = tag.inner)
    (sameLine : other.line = tag.line) : rules.step stack other = rules.step stack tag := by
  have sameText : other.text = tag.text := by rw [Tag.text, Tag.text, sameInner]
  simp only [Rules.step, sameInner, sameLine, sameText]

/-- What is open after a tag is a part of what is made of it. -/
theorem step_eq_read (rules : Rules) (stack : List Section) (tag : Tag) :
    rules.step stack tag =
      (rules.read stack tag.line tag.text tag.inner).map Effect.stack := by
  unfold Rules.step Rules.read
  cases Marker.ofInner tag.inner with
  | «variable» | comment | unsupported => rfl
  | opener inverted name =>
    dsimp only
    cases rules.section? stack inverted name <;> rfl
  | closer name =>
    cases stack with
    | nil => rfl
    | cons entry stack =>
      dsimp only
      split <;> rfl

/-- A tag that is read puts something before what becomes of the tags after it. -/
theorem compileTags_of_step (steps : rules.step stack tag = .ok stack') :
    ∃ written, ∀ more unended, rules.compileTags stack (tag :: more) unended =
      (rules.compileTags stack' more unended).map (written ++ ·) := by
  rw [step_eq_read, map_ok_iff] at steps
  obtain ⟨effect, read, rfl⟩ := steps
  refine ⟨effect.text ++ shown effect.stack (effect.trim tag.following), fun more unended => ?_⟩
  rw [compileTags_read, read]

/-- A tag that is refused ends the work. -/
theorem compileTags_of_refused (fails : rules.step stack tag = .error fault) (more : List Tag)
    (unended : Option OpenTag) :
    rules.compileTags stack (tag :: more) unended = .error fault := by
  rw [step_eq_read] at fails
  rw [compileTags_read]
  cases read : rules.read stack tag.line tag.text tag.inner with
  | ok effect =>
    rw [read] at fails
    cases fails
  | error cause =>
    rw [read] at fails
    cases fails
    rfl

/-! ### Tags one after another -/

/-- Tags that are all read put something before what becomes of the tags after them. -/
theorem compileTags_of_steps {tags : List Tag} :
    ∀ {stack : List Section}, tags.foldlM rules.step stack = .ok stack' →
      ∃ written, ∀ more unended, rules.compileTags stack (tags ++ more) unended =
        (rules.compileTags stack' more unended).map (written ++ ·) := by
  induction tags with
  | nil =>
    intro stack steps
    cases steps
    refine ⟨[], fun more unended => ?_⟩
    rw [List.nil_append]
    cases rules.compileTags stack' more unended <;> rfl
  | cons tag tags ih =>
    intro stack steps
    rw [List.foldlM_cons] at steps
    obtain ⟨middle, here, later⟩ := bind_ok_iff.mp steps
    obtain ⟨first, compiles⟩ := compileTags_of_step here
    obtain ⟨second, compiles'⟩ := ih later
    refine ⟨first ++ second, fun more unended => ?_⟩
    rw [List.cons_append, compiles, compiles']
    cases rules.compileTags stack' more unended <;> simp [Except.map]

/-- The first tag that is refused ends the work, whatever comes after it. -/
theorem compileTags_of_fault {earlier : List Tag}
    (steps : earlier.foldlM rules.step stack = .ok stack')
    (fails : rules.step stack' tag = .error fault) (more : List Tag) (unended : Option OpenTag) :
    rules.compileTags stack (earlier ++ tag :: more) unended = .error fault := by
  obtain ⟨written, compiles⟩ := compileTags_of_steps steps
  rw [compiles, compileTags_of_refused fails]
  rfl

/-- Where all tags are read, what can be wrong is that a tag has no end or a section is left
open. -/
theorem compileTags_error_of_steps {tags : List Tag} {unended : Option OpenTag}
    (steps : tags.foldlM rules.step stack = .ok stack')
    (failed : rules.compileTags stack tags unended = .error fault) :
    (∃ left, unended = some left ∧ fault = .unended left.line) ∨
      unended = none ∧ ∃ entry outer, stack' = entry :: outer ∧ fault = .unclosed entry.name := by
  obtain ⟨written, compiles⟩ := compileTags_of_steps steps
  have atEnd := compiles [] unended
  rw [List.append_nil, failed] at atEnd
  cases unended with
  | some left =>
    cases stack' <;> cases atEnd <;> exact .inl ⟨left, rfl, rfl⟩
  | none =>
    cases stack' with
    | nil => cases atEnd
    | cons entry outer =>
      cases atEnd
      exact .inr ⟨rfl, entry, outer, rfl, rfl⟩

/-- **A fault about a tag is that of the first tag that is refused.** -/
theorem exists_refused_of_compileTags {tags : List Tag} {unended : Option OpenTag}
    (failed : rules.compileTags stack tags unended = .error fault) (about : fault.tag?.isSome) :
    ∃ earlier tag later middle, tags = earlier ++ tag :: later ∧
      earlier.foldlM rules.step stack = .ok middle ∧ rules.step middle tag = .error fault := by
  cases runs : tags.foldlM rules.step stack with
  | ok stack' =>
    rcases compileTags_error_of_steps runs failed with ⟨_, -, rfl⟩ | ⟨-, _, _, -, rfl⟩
    · cases about
    · cases about
  | error cause =>
    obtain ⟨earlier, tag, later, middle, rfl, steps, fails⟩ := exists_first_of_foldlM_error runs
    cases (compileTags_of_fault steps fails later unended).symm.trans failed
    exact ⟨earlier, tag, later, middle, rfl, steps, fails⟩

theorem compile_error_iff (rules : Rules) (template : List Char) (fault : MarkerFault) :
    rules.compile template = .error fault ↔
      rules.compileTags [] (cut template).tags (cut template).unended = .error fault := by
  rw [Rules.compile, compileText_eq]
  cases rules.compileTags [] (cut template).tags (cut template).unended <;> simp [Except.map]

/-! ### A template up to a tag -/

/-- **A template up to a tag** is cut as it is in the whole, and so is the tag, whatever comes after
it. -/
theorem CutsInto.upTo {line : Nat} {text : List Char} {parts : Cut}
    (cuts : CutsInto line text parts) {tag : Tag} {later : List Tag} :
    ∀ {earlier : List Tag}, parts.tags = earlier ++ tag :: later →
      ∃ before after, text = before ++ tag.text ++ after ∧
        tag.line = line + Text.lineBreaks before ∧
        CutsInto line before ⟨parts.lead, earlier, none⟩ ∧
        ∀ rest, ∃ following more unended, CutsInto line (before ++ tag.text ++ rest)
          ⟨parts.lead, earlier ++ ⟨tag.line, tag.inner, following⟩ :: more, unended⟩ := by
  induction cuts with
  | bare line plain =>
    intro earlier split
    simp at split
  | unended line opens endless =>
    intro earlier split
    simp at split
  | @tag text before rest inner after line parts opens closes cutsLater ih =>
    intro earlier split
    have tagged : text = before ++ opening ++ (inner ++ closing ++ after) := by
      rw [← closes.occurs, ← opens.occurs]
    have opensBefore (other : List Char) := opens.followedBy (by simp [opening]) other
    have closesBefore (other : List Char) := closes.followedBy (by simp [closing]) other
    cases earlier with
    | nil =>
      obtain ⟨rfl, rfl⟩ := List.cons.inj split
      refine ⟨before, after, ?_, rfl, ?_, fun rest => ?_⟩
      · rw [tagged]
        simp [Tag.text]
      · refine .bare line fun inside => ?_
        exact opens.not_infix (by simp [opening]) (inside.trans (List.prefix_append ..).isInfix)
      · have whole : before ++ Tag.text ⟨line + Text.lineBreaks before, inner, parts.lead⟩ ++ rest =
            before ++ opening ++ (inner ++ closing ++ rest) := by
          simp [Tag.text]
        rw [whole]
        exact ⟨_, _, _, .tag (opensBefore _) (closesBefore rest) (cutsInto_cutFrom _ rest)⟩
    | cons first earlier =>
      obtain ⟨rfl, splitLater⟩ := List.cons.inj split
      obtain ⟨middle, after', rfl, isLine, cutsMiddle, goesOn⟩ := ih splitLater
      refine ⟨before ++ opening ++ (inner ++ closing ++ middle), after', ?_, ?_, ?_, fun rest => ?_⟩
      · rw [tagged]
        simp
      · rw [isLine]
        simp [Text.lineBreaks, opening, closing]
        omega
      · exact .tag (opensBefore _) (closesBefore middle) cutsMiddle
      · obtain ⟨following, more, unended, cutsRest⟩ := goesOn rest
        have whole : before ++ opening ++ (inner ++ closing ++ middle) ++ tag.text ++ rest =
            before ++ opening ++ (inner ++ closing ++ (middle ++ tag.text ++ rest)) := by
          simp
        rw [whole]
        exact ⟨following, more, unended, .tag (opensBefore _) (closesBefore _) cutsRest⟩

/-! ### Templates that agree up to a byte -/

/-- Two texts that have so many bytes, the same ones. -/
structure AgreeUpTo (size : Nat) (first second : String) : Prop where
  within : size ≤ first.utf8ByteSize
  within' : size ≤ second.utf8ByteSize
  same : first.toByteArray.extract 0 size = second.toByteArray.extract 0 size

/-- A text that agrees with another on the bytes of a part starts with the part. -/
theorem AgreeUpTo.starts {front back other : String}
    (agree : AgreeUpTo front.utf8ByteSize (front ++ back) other) :
    front.toList <+: other.toList := by
  have size : front.utf8ByteSize = front.toByteArray.size := String.size_toByteArray.symm
  have first : other.toByteArray.extract 0 front.utf8ByteSize = front.toByteArray := by
    rw [← agree.same, String.toByteArray_append, ByteArray.extract_append_eq_left size]
  have whole : front.toByteArray ++
      other.toByteArray.extract front.utf8ByteSize other.toByteArray.size = other.toByteArray := by
    rw [← first, ← ByteArray.extract_eq_extract_append_extract _ (Nat.zero_le _)
      (agree.within'.trans_eq String.size_toByteArray.symm), ByteArray.extract_zero_size]
  rw [← String.utf8Encode_toList, ← String.utf8Encode_toList (b := other)] at whole
  exact List.isPrefix_of_utf8Encode_append_eq_utf8Encode _ whole

/-! ### The tag that is reported -/

/-- The messages of the faults that are about a tag. -/
def tagMessages : List String := [
  "unsupported tag", "unknown block marker", "close marker without an open section",
  "mismatched close marker"]

theorem message_mem_tagMessages (fault : MarkerFault) :
    fault.toFault.message ∈ tagMessages ↔ fault.tag?.isSome := by
  cases fault <;>
    simp [MarkerFault.toFault, Fault.of, Fault.message, Detail.of, tagMessages, MarkerFault.tag?]

/-- A fault that is about a tag names the tag and its line. -/
theorem names_of_tag? {tag : List Char} {line : Nat} (about : fault.tag? = some (tag, line)) :
    (∃ key ∈ ["tag", "marker", "found"],
      ⟨some key, String.ofList tag⟩ ∈ fault.toFault.outermost.parameters) ∧
      ⟨some "line", toString line⟩ ∈ fault.toFault.outermost.parameters := by
  cases fault <;> cases about <;> simp [MarkerFault.toFault, Fault.of, Detail.of]

/-- A fault of a template that is about a tag of it, given with what comes before it and after
it. -/
structure Rules.Blames (rules : Rules) (template : String) (fault : MarkerFault)
    (before tag after : String) : Prop where
  whole : template = before ++ tag ++ after
  /-- The tags of the template are those of what comes before this one, then this one and others. -/
  scanned : ∃ scanned later, scanned.text = tag.toList ∧
    (cut template.toList).tags = (cut before.toList).tags ++ scanned :: later
  namesTag : ∃ key ∈ ["tag", "marker", "found"],
    ⟨some key, tag⟩ ∈ fault.toFault.outermost.parameters
  namesLine : ⟨some "line", toString (1 + Text.lineBreaks before.toList)⟩ ∈
    fault.toFault.outermost.parameters
  /-- Up to the tag no tag is wrong, and all have an end. -/
  isFirst : ∀ cause, rules.compile before.toList = .error cause →
    cause.toFault.message ∉ "unterminated tag" :: tagMessages
  /-- What comes after the tag makes no difference. -/
  decides : ∀ other : String, AgreeUpTo (before ++ tag).utf8ByteSize template other →
    rules.compile other.toList = .error fault

/-- **A template is refused for the first tag that is wrong.** A fault that is about a tag names a
tag of the template, as it stands there, and the line on which it starts. What comes before the tag
is not refused for a tag, and every template that agrees up to the last byte of the tag is refused
with the same fault. -/
theorem refused_for_tag {rules : Rules} {template : String} {fault : MarkerFault}
    (refused : rules.compile template.toList = .error fault)
    (about : fault.toFault.message ∈ tagMessages) :
    ∃ before tag after, rules.Blames template fault before tag after := by
  obtain ⟨earlier, tag, later, middle, split, steps, fails⟩ :=
    exists_refused_of_compileTags ((compile_error_iff ..).mp refused)
      ((message_mem_tagMessages fault).mp about)
  obtain ⟨before, after, whole, isLine, cutsBefore, goesOn⟩ :=
    (cutsInto_cut template.toList).upTo split
  have cutBefore := (cutsInto_cut before).unique cutsBefore
  have isWhole : template =
      String.ofList before ++ String.ofList tag.text ++ String.ofList after := by
    rw [← String.toList_inj, whole]
    simp
  obtain ⟨namesTag, namesLine⟩ := names_of_tag? (tag?_of_step fails)
  refine ⟨String.ofList before, String.ofList tag.text, String.ofList after, isWhole,
    ⟨tag, later, String.toList_ofList.symm, ?_⟩, namesTag, ?_, fun cause refused' => ?_,
    fun other agree => ?_⟩
  · rw [String.toList_ofList, cutBefore, split]
  · rwa [String.toList_ofList, ← isLine]
  · -- Every tag before this one is read, so that only a section can be left open.
    rw [String.toList_ofList, compile_error_iff, cutBefore] at refused'
    rcases compileTags_error_of_steps steps refused' with ⟨_, missing, -⟩ | ⟨-, entry, _, -, rfl⟩
    · cases missing
    · simp [MarkerFault.toFault, Fault.of, Fault.message, Detail.of, tagMessages]
  · rw [isWhole] at agree
    obtain ⟨rest, isOther⟩ := agree.starts
    obtain ⟨following, more, unended, cutsOther⟩ := goesOn rest
    have same : before ++ tag.text ++ rest = other.toList := by
      rw [← isOther]
      simp
    rw [same] at cutsOther
    rw [compile_error_iff, (cutsInto_cut other.toList).unique cutsOther]
    have failsThere : rules.step middle ⟨tag.line, tag.inner, following⟩ = .error fault :=
      (step_congr rfl rfl).trans fails
    exact compileTags_of_fault steps failsThere more unended

/-- In a hidden section, behind a comment over two lines, the opposite of a loop. -/
def invertedTemplate : String :=
  "\x7b\x7b#old\x7d\x7d\r\n\x7b\x7b! a\n\x7d\x7d\n\x7b\x7b^libraries\x7d\x7d \x7b\x7b"

/-- The marker is reported on its own line, though the section is hidden and a tag without an end
comes after it. -/
theorem refused_for_tag_inverted :
    let fault := MarkerFault.unknownSection "\x7b\x7b^libraries\x7d\x7d".toList 4
    (⟨[("old", false)], none⟩ : Rules).compile invertedTemplate.toList = .error fault ∧
      fault.toFault.message ∈ tagMessages ∧
      ∃ before tag after,
        (⟨[("old", false)], none⟩ : Rules).Blames invertedTemplate fault before tag after := by
  intro fault
  have refused : (⟨[("old", false)], none⟩ : Rules).compile invertedTemplate.toList =
      .error fault := by
    cbv
  have about : fault.toFault.message ∈ tagMessages := by decide
  exact ⟨refused, about, refused_for_tag refused about⟩

end CatalogPages.Markers
