/-
**Templates whose loops go too deep.**

Loops over the libraries, one inside another. Such a template is accepted however many there are,
but it is rendered only up to a limit.

* `cut_deepTemplate`: its section tree;
* `deepTemplate_refused`: it is accepted, and not rendered.
-/

import CatalogPages.Proofs.Page.Rendering

namespace CatalogPages

namespace Markers

/-! ### Its section tree -/

/-- The markers of a loop over libraries. -/
def loopOpener : Tag := ⟨1, "#libraries".toList, []⟩

def loopCloser : Tag := ⟨1, "/libraries".toList, []⟩

theorem opens_loopOpener : Marker.ofInner loopOpener.inner = .opener false "libraries".toList := rfl

theorem closes_loopCloser : Marker.ofInner loopCloser.inner = .closer "libraries".toList := rfl

/-- Loops inside one another, and nothing else. -/
def deepTree : (levels : Nat) → SectionTree
  | 0 => .done
  | levels + 1 =>
    .enclosed loopOpener false "libraries".toList opens_loopOpener (deepTree levels) loopCloser
      closes_loopCloser .done

theorem tags_deepTree (levels : Nat) :
    (deepTree levels).tags =
      List.replicate levels loopOpener ++ List.replicate levels loopCloser := by
  induction levels with
  | zero => rfl
  | succ levels ih =>
    rw [deepTree, SectionTree.tags_enclosed, ih, List.replicate_succ, List.replicate_succ',
      SectionTree.tags_done, List.cons_append, List.append_assoc]

/-- The template of this tree. -/
def deepTemplate (levels : Nat) : List Char :=
  (List.replicate levels loopOpener ++ List.replicate levels loopCloser).flatMap Tag.text

theorem cutFrom_tag {line : Nat} {text before rest inner after : List Char}
    (ahead : Text.cutAt? opening text = some (before, rest))
    (behind : Text.cutAt? closing rest = some (inner, after)) :
    cutFrom line text =
      let start := line + Text.lineBreaks before
      let parts := cutFrom (start + Text.lineBreaks inner) after
      ⟨before, ⟨start, inner, parts.lead⟩ :: parts.tags, parts.unended⟩ := by
  rw [cutFrom]
  split
  · next missing => cases missing.symm.trans ahead
  · next found =>
    cases found.symm.trans ahead
    split
    · next missing => cases missing.symm.trans behind
    · next found' =>
      cases found'.symm.trans behind
      rfl

theorem cutFrom_loop {tag : Tag} (isLoop : tag = loopOpener ∨ tag = loopCloser) {more : List Char}
    {tags : List Tag} (cuts : cutFrom 1 more = ⟨[], tags, none⟩) :
    cutFrom 1 (tag.text ++ more) = ⟨[], tag :: tags, none⟩ := by
  have ahead : Text.cutAt? opening (tag.text ++ more) =
      some ([], tag.inner ++ (closing ++ more)) := by
    rcases isLoop with rfl | rfl <;> rfl
  have behind : Text.cutAt? closing (tag.inner ++ (closing ++ more)) = some (tag.inner, more) := by
    rcases isLoop with rfl | rfl <;> rfl
  have unbroken : Text.lineBreaks tag.inner = 0 := by
    rcases isLoop with rfl | rfl <;> rfl
  have start : Text.lineBreaks [] = 0 := rfl
  rw [cutFrom_tag ahead behind]
  simp only [unbroken, start, Nat.add_zero, cuts]
  rcases isLoop with rfl | rfl <;> rfl

theorem cutFrom_loops {tags : List Tag}
    (loops : ∀ tag ∈ tags, tag = loopOpener ∨ tag = loopCloser) :
    cutFrom 1 (tags.flatMap Tag.text) = ⟨[], tags, none⟩ := by
  induction tags with
  | nil => cbv
  | cons tag tags ih =>
    rw [List.flatMap_cons]
    exact cutFrom_loop (loops tag List.mem_cons_self)
      (ih fun other among => loops other (List.mem_cons_of_mem _ among))

theorem mem_loops {levels : Nat} {tag : Tag}
    (member : tag ∈ List.replicate levels loopOpener ++ List.replicate levels loopCloser) :
    tag = loopOpener ∨ tag = loopCloser :=
  (List.mem_append.mp member).imp List.eq_of_mem_replicate List.eq_of_mem_replicate

theorem cut_deepTemplate (levels : Nat) :
    cut (deepTemplate levels) = ⟨[], (deepTree levels).tags, none⟩ := by
  rw [tags_deepTree]
  exact cutFrom_loops fun _ => mem_loops

section Kinds

variable {rules : Rules} (isKind : rules.kind? false "libraries".toList = some .libraries)

include isKind

theorem known_deepTree (levels : Nat) : (deepTree levels).Known rules := by
  induction levels with
  | zero => trivial
  | succ levels ih => exact ⟨by rw [isKind]; rfl, ih, trivial⟩

/-- All of its loops go into one another. -/
theorem depth_deepTree (levels : Nat) : (deepTree levels).depth rules = levels := by
  induction levels with
  | zero => rfl
  | succ levels ih =>
    rw [deepTree, SectionTree.depth, isKind]
    simp [Kind.depth, SectionTree.depth, ih]

end Kinds

end Markers

/-! ### Its page -/

namespace PageContext

open Markers (cut deepTemplate deepTree)

variable {context : PageContext}

theorem kind_libraries (context : PageContext) :
    (context.rules none).kind? false "libraries".toList = some .libraries := by
  rfl

theorem fits_deepTemplate
    (apart : ∀ name ∈ context.globals.map Prod.fst,
      name ∉ context.builtIn.map Prod.fst ∧ name ∉ loopNames) (levels : Nat) :
    context.Fits (cut (deepTemplate levels)) := by
  rw [Markers.cut_deepTemplate, Markers.tags_deepTree]
  refine ⟨fun text member => ?_, fun tag member isVariable => ?_, apart⟩
  · rcases List.mem_cons.mp member with rfl | among
    · exact Script.plain_nil
    · obtain ⟨tag, inTags, rfl⟩ := List.mem_map.mp among
      rcases Markers.mem_loops inTags with rfl | rfl <;> exact Script.plain_nil
  · rcases Markers.mem_loops member with rfl | rfl <;> cases isVariable

/-- **More loops inside one another than the engine reads are accepted, and not rendered.** -/
theorem deepTemplate_refused
    (apart : ∀ name ∈ context.globals.map Prod.fst,
      name ∉ context.builtIn.map Prod.fst ∧ name ∉ loopNames) (name : String) {levels : Nat}
    (deep : Markers.loopLimit < levels) :
    ∃ out, (context.rules none).compile (deepTemplate levels) = .ok out ∧
      Engine.script name (String.ofList out) context =
        .error ((Fault.of ScriptFault.malformed.message).within
          (.of "failed to render page" [("page", name)])) := by
  have same : (deepTree levels).tags = (cut (deepTemplate levels)).tags := by
    rw [Markers.cut_deepTemplate]
  have ended : (cut (deepTemplate levels)).unended = none := by
    rw [Markers.cut_deepTemplate]
  have deep' : Markers.loopLimit < (deepTree levels).depth (context.rules none) := by
    rwa [Markers.depth_deepTree context.kind_libraries]
  exact ⟨_, Markers.compile_of_known rfl ended same
    (Markers.known_deepTree context.kind_libraries levels),
    script_of_deep name (fits_deepTemplate apart levels) same deep'⟩

/-- A page without libraries and categories. -/
def blank : PageContext where
  version := .ofText "https://www.boost.org/users/history/" "1.85.0".toList
  categories := []
  libraries := []
  globals := []

/-- Where there are no libraries, loops over them mean nothing. -/
theorem page_deepTree (levels : Nat) : (deepTree levels).page blank (blank.rules none) [] = [] := by
  cases levels with
  | zero => rfl
  | succ levels =>
    rw [deepTree, Markers.SectionTree.page, kind_libraries]
    rfl

/-- The first template that is not rendered. -/
theorem deepTemplate_not_page :
    ∃ out, (blank.rules none).compile (deepTemplate 148) = .ok out ∧
      blank.Fits (cut (deepTemplate 148)) ∧
      (deepTree 148).tags = (cut (deepTemplate 148)).tags ∧
      (deepTree 148).page blank (blank.rules none) [] = [] ∧
      Engine.script "page.html" (String.ofList out) blank ≠
        .ok (String.ofList ((cut (deepTemplate 148)).lead ++
          (deepTree 148).page blank (blank.rules none) [])) := by
  have apart : ∀ name ∈ blank.globals.map Prod.fst,
      name ∉ blank.builtIn.map Prod.fst ∧ name ∉ loopNames := by
    decide
  have deep : Markers.loopLimit < 148 := by decide
  obtain ⟨out, compiled, refused⟩ := deepTemplate_refused apart "page.html" deep
  refine ⟨out, compiled, fits_deepTemplate apart 148, ?_, page_deepTree 148, ?_⟩
  · rw [Markers.cut_deepTemplate]
  · rw [refused]
    exact nofun

end PageContext

end CatalogPages
