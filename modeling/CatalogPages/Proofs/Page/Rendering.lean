/-
**Pages mean what their templates mean.**

* `script_eq_page`: a template that holds nothing but texts, variables, comments and sections shows
  on a page what the marker language says, if the engine reads it. It reads all but those whose
  loops go too deep.
-/

import CatalogPages.Proofs.Page.Writing

namespace CatalogPages

open Markers (Cut CutsInto Marker SectionTree cut)
open Script (Calls State)

/-! ### Pages -/

namespace PageContext

variable {context : PageContext}

/-- The names that a template shows can be read, and stand for nothing else. -/
theorem Fits.word {parts : Cut} (fits : context.Fits parts) {tag : Markers.Tag}
    (member : tag ∈ parts.tags) (isVariable : Marker.ofInner tag.inner = .variable) :
    Script.IsWord tag.inner ∧ String.ofList tag.inner ∉ Script.constantWords := by
  have all : ∀ name ∈ shownNames, Script.IsWord name.toList ∧ name ∉ Script.constantWords := by
    decide
  rcases fits.shows tag member isVariable with known | shows
  · have word := all _ known
    rwa [String.toList_ofList] at word
  · exact ⟨shows.isWord, shows.free⟩

/-- The state that a page starts with. -/
def start (context : PageContext) (name : String) : State :=
  { layers := [⟨context.values, none, none⟩], page := name }

theorem stands_start (context : PageContext) (name : String) :
    context.Stands [] (context.start name) :=
  ⟨⟨[], rfl, .nil⟩, rfl, rfl, rfl⟩

theorem script_of_render {name : String} {script text : List Char}
    (rendered : Script.render name context.values script = .ok text) :
    Engine.script name (String.ofList script) context = .ok (String.ofList text) := by
  rw [Engine.script, String.toList_ofList, rendered]

theorem script_of_render_error {name : String} {script : List Char} {fault : ScriptFault}
    (fails : Script.render name context.values script = .error fault) :
    Engine.script name (String.ofList script) context =
      .error ((Fault.of fault.message).within (.of "failed to render page" [("page", name)])) := by
  rw [Engine.script, String.toList_ofList, fails]

section Compiled

variable {template : List Char} {tree : SectionTree}

theorem Fits.named (fits : context.Fits (cut template)) (same : tree.tags = (cut template).tags) :
    tree.Named := by
  intro tag member isVariable
  rw [same] at member
  exact (fits.word member isVariable).1

theorem Fits.free (fits : context.Fits (cut template)) (same : tree.tags = (cut template).tags) :
    tree.Free := by
  intro tag member isVariable
  rw [same] at member
  exact (fits.word member isVariable).2

/-- What a template becomes shows what the template means. -/
theorem script_of_room (name : String) (fits : context.Fits (cut template))
    (same : tree.tags = (cut template).tags)
    (room : tree.depth (context.rules none) ≤ Markers.loopLimit) :
    Engine.script name (String.ofList ((cut template).lead ++ tree.text (context.rules none) false))
      context =
      .ok (String.ofList ((cut template).lead ++ tree.page context (context.rules none) [])) := by
  have parsed := Markers.parse_text same (fits.named same) (fits.free same) fits.plain room
  have shown : ∀ tag ∈ tree.tags, Marker.ofInner tag.inner = .variable →
      context.Shown (String.ofList tag.inner) := by
    intro tag member
    rw [same] at member
    exact fits.shown member
  have depth : ([] : Scene).length + tree.depth (context.rules none) ≤ Markers.loopLimit := by
    simpa using room
  let calls := Calls.within (Script.depthLimit + 1)
  have lead : (Markers.Draft.mk (cut template).lead []).Makes calls (context.start name)
      (cut template).lead (context.start name) := ⟨[], writes_nil _, rfl⟩
  obtain ⟨after, -, written⟩ :=
    Markers.addsAt_read calls fits (context.rules none) tree shown false [] rfl depth _ _ _ _
      (stands_start context name) lead
  refine script_of_render ?_
  rw [Script.render, parsed]
  show ((Script.runAll calls _).run (context.start name) >>= _) = _
  rw [written.nodes]
  rfl

/-- What a template becomes whose loops go too deep is not rendered. -/
theorem script_of_deep (name : String) (fits : context.Fits (cut template))
    (same : tree.tags = (cut template).tags)
    (deep : Markers.loopLimit < tree.depth (context.rules none)) :
    Engine.script name (String.ofList ((cut template).lead ++ tree.text (context.rules none) false))
      context =
      .error ((Fault.of ScriptFault.malformed.message).within
        (.of "failed to render page" [("page", name)])) := by
  have unread := Markers.parse_deep same (fits.named same) (fits.free same) fits.plain deep
  refine script_of_render_error ?_
  rw [Script.render, unread]
  rfl

end Compiled

/-- **An accepted template shows on a page what it means**, unless more loops stand inside one
another than the engine reads. Such a template is not rendered. -/
theorem script_eq_page (context : PageContext) (name : String) (template out : List Char)
    (accepted : (context.rules none).compile template = .ok out)
    (fits : context.Fits (cut template)) :
    CutsInto 1 template (cut template) ∧ ∃ tree : SectionTree, tree.tags = (cut template).tags ∧
      (∀ other : SectionTree, other.tags = (cut template).tags → other = tree) ∧
      (tree.depth (context.rules none) ≤ Markers.loopLimit →
        Engine.script name (String.ofList out) context =
          .ok (String.ofList ((cut template).lead ++ tree.page context (context.rules none) []))) ∧
      (Markers.loopLimit < tree.depth (context.rules none) →
        Engine.script name (String.ofList out) context =
          .error ((Fault.of ScriptFault.malformed.message).within
            (.of "failed to render page" [("page", name)]))) := by
  obtain ⟨text, compiled, rfl⟩ := Markers.ok_of_map_eq_ok accepted
  obtain ⟨-, -, tree, same, rfl⟩ := (Markers.compileText_ok_iff ..).mp compiled
  exact ⟨Markers.cutsInto_cut template, tree, same,
    fun other same' => SectionTree.tags_injective (same'.trans same.symm),
    script_of_room name fits same, script_of_deep name fits same⟩

/-- A page with one library, in one category. -/
def sample : PageContext where
  version := .ofText "" "1.85.0".toList
  categories := [⟨⟨"text", "Text"⟩, [Metadata.normalize { key := "spirit", name := "Spirit" }]⟩]
  libraries := [Metadata.normalize { key := "spirit", name := "Spirit" }]
  globals := [("site", .string "a<b")]

/-- A template with a loop in a loop, and a global after them. -/
def sampleTemplate : List Char :=
  "\x7b\x7b#categorized\x7d\x7d\n\x7b\x7btitle\x7d\x7d: ".toList ++
    "\x7b\x7b#libraries\x7d\x7d\x7b\x7bname\x7d\x7d \x7b\x7b/libraries\x7d\x7d".toList ++
    "\x7b\x7b/categorized\x7d\x7d\x7b\x7bsite\x7d\x7d".toList

theorem cut_sampleTemplate :
    cut sampleTemplate =
      ⟨[], [⟨1, "#categorized".toList, ['\n']⟩, ⟨2, "title".toList, [':', ' ']⟩,
        ⟨2, "#libraries".toList, []⟩, ⟨2, "name".toList, [' ']⟩, ⟨2, "/libraries".toList, []⟩,
        ⟨2, "/categorized".toList, []⟩, ⟨2, "site".toList, []⟩], none⟩ := by
  cbv

def sampleTree : SectionTree :=
  .enclosed ⟨1, "#categorized".toList, ['\n']⟩ false "categorized".toList rfl
    (.value ⟨2, "title".toList, [':', ' ']⟩ rfl
      (.enclosed ⟨2, "#libraries".toList, []⟩ false "libraries".toList rfl
        (.value ⟨2, "name".toList, [' ']⟩ rfl .done) ⟨2, "/libraries".toList, []⟩ rfl .done))
    ⟨2, "/categorized".toList, []⟩ rfl (.value ⟨2, "site".toList, []⟩ rfl .done)

theorem fits_sample : sample.Fits (cut sampleTemplate) := by
  rw [cut_sampleTemplate]
  refine ⟨fun text member => Script.plain_of_not_mem ?_, fun tag member isVariable => ?_, by decide⟩
  · revert text member
    decide
  · have names : ∀ tag ∈ sampleTree.tags, Marker.ofInner tag.inner = .variable →
        String.ofList tag.inner ∈ shownNames ∨ tag.inner = "site".toList := by
      decide
    rcases names tag member isVariable with known | isSite
    · exact .inl known
    · rw [isSite]
      exact .inr ⟨by decide, by decide, by decide, by decide⟩

theorem compile_sampleTemplate :
    (sample.rules none).compile sampleTemplate =
      .ok (sampleTree.text (sample.rules none) false) := by
  have known : sampleTree.Known (sample.rules none) := by
    refine ⟨?_, ⟨?_, trivial, trivial⟩, trivial⟩ <;> cbv
  have compiled := Markers.compile_of_known rfl (by rw [cut_sampleTemplate])
    (by rw [cut_sampleTemplate]; rfl) known
  rwa [cut_sampleTemplate] at compiled

/-- The sample shows its category, its library and the global, with an entity. -/
theorem script_eq_page_sample :
    Engine.script "page.html" (String.ofList (sampleTree.text (sample.rules none) false)) sample =
      .ok "Text: Spirit a&lt;b" := by
  obtain ⟨-, tree, same, unique, shows, -⟩ :=
    script_eq_page sample "page.html" sampleTemplate _ compile_sampleTemplate fits_sample
  have isTree : sampleTree = tree := unique sampleTree (by rw [cut_sampleTemplate]; rfl)
  subst isTree
  rw [shows (by decide), cut_sampleTemplate]
  rfl

end PageContext

end CatalogPages
