/-
**How a template is cut.**

`CutsInto` says what `cut` does: a tag reaches from the first opening braces in what is left of the
template to the first closing braces after them.

* `cutsInto_cut`: this is how a template is cut;
* `CutsInto.not_infix`: no text before a tag reaches into opening braces, so that putting it before
  other braces makes no tag of them.
-/

import CatalogPages.Markers.Tag
import CatalogPages.Proofs.Text.Search

namespace CatalogPages.Markers

/-- The parts that a text has, if it starts on a line of some number. -/
inductive CutsInto : (line : Nat) → (text : List Char) → Cut → Prop
  | bare {text : List Char} (line : Nat) (plain : ¬ opening <:+: text) :
      CutsInto line text ⟨text, [], none⟩
  | unended {text before rest : List Char} (line : Nat)
      (opens : Text.FirstAt opening text before rest) (endless : ¬ closing <:+: rest) :
      CutsInto line text ⟨before, [], some ⟨line + Text.lineBreaks before, rest⟩⟩
  | tag {text before rest inner after : List Char} {line : Nat} {parts : Cut}
      (opens : Text.FirstAt opening text before rest)
      (closes : Text.FirstAt closing rest inner after)
      (later : CutsInto (line + Text.lineBreaks before + Text.lineBreaks inner) after parts) :
      CutsInto line text
        ⟨before, ⟨line + Text.lineBreaks before, inner, parts.lead⟩ :: parts.tags, parts.unended⟩

theorem cutsInto_cutFrom (line : Nat) (template : List Char) :
    CutsInto line template (cutFrom line template) := by
  fun_induction cutFrom line template with
  | case1 line template ahead => exact .bare line ((Text.cutAt?_eq_none_iff ..).mp ahead)
  | case2 line template before rest ahead start behind =>
    exact .unended line (Text.firstAt_of_cutAt? ahead) ((Text.cutAt?_eq_none_iff ..).mp behind)
  | case3 line template before rest ahead start inner after behind parts ih =>
    exact .tag (Text.firstAt_of_cutAt? ahead) (Text.firstAt_of_cutAt? behind) ih

/-- **A template is cut at the first braces**, again and again. -/
theorem cutsInto_cut (template : List Char) : CutsInto 1 template (cut template) :=
  cutsInto_cutFrom 1 template

/-- **There is one way to cut a text.** -/
theorem CutsInto.unique {line : Nat} {text : List Char} {parts others : Cut}
    (cuts : CutsInto line text parts) (again : CutsInto line text others) : parts = others := by
  have occurs {find text front back : List Char} (first : Text.FirstAt find text front back) :
      find <:+: text := ⟨front, back, first.occurs.symm⟩
  induction cuts generalizing others with
  | bare line plain =>
    cases again with
    | bare => rfl
    | unended _ opens => exact absurd (occurs opens) plain
    | tag opens => exact absurd (occurs opens) plain
  | unended line opens endless =>
    cases again with
    | bare _ plain => exact absurd (occurs opens) plain
    | unended _ opens' =>
      obtain ⟨rfl, rfl⟩ := opens.unique opens'
      rfl
    | tag opens' closes =>
      obtain ⟨rfl, rfl⟩ := opens.unique opens'
      exact absurd (occurs closes) endless
  | tag opens closes later ih =>
    cases again with
    | bare _ plain => exact absurd (occurs opens) plain
    | unended _ opens' endless =>
      obtain ⟨rfl, rfl⟩ := opens.unique opens'
      exact absurd (occurs closes) endless
    | tag opens' closes' later' =>
      obtain ⟨rfl, rfl⟩ := opens.unique opens'
      obtain ⟨rfl, rfl⟩ := closes.unique closes'
      rw [ih later']

/-- **What stands in a tag does not reach into closing braces**, not even with a brace after it. -/
theorem CutsInto.inner_not_infix {line : Nat} {text : List Char} {parts : Cut}
    (cuts : CutsInto line text parts) :
    ∀ tag ∈ parts.tags, ¬ closing <:+: tag.inner ++ ['\x7d'] := by
  induction cuts with
  | bare | unended => exact fun tag member => nomatch member
  | tag opens closes later ih =>
    intro tag member
    rcases List.mem_cons.mp member with rfl | later
    · exact closes.not_infix (by simp [closing])
    · exact ih tag later

/-! ### The text between tags -/

/-- The texts of a template between its tags, in order. -/
def Cut.texts (parts : Cut) : List (List Char) :=
  parts.lead :: parts.tags.map Tag.following

/-- **A text before a tag does not reach into opening braces**, not even with a brace after it. -/
theorem CutsInto.not_infix {line : Nat} {template : List Char} {parts : Cut}
    (cuts : CutsInto line template parts) :
    ∀ text ∈ parts.texts.dropLast, ¬ opening <:+: text ++ ['\x7b'] := by
  induction cuts with
  | bare line plain => simp [Cut.texts]
  | unended line opens endless => simp [Cut.texts]
  | tag opens closes later ih =>
    intro text member
    simp only [Cut.texts, List.map_cons, List.dropLast_cons_cons, List.mem_cons] at member
    rcases member with rfl | after
    · exact opens.not_infix (by simp [opening])
    · exact ih text after

/-- **No text between tags has opening braces**, the last one included. -/
theorem CutsInto.quiet {line : Nat} {template : List Char} {parts : Cut}
    (cuts : CutsInto line template parts) : ∀ text ∈ parts.texts, ¬ opening <:+: text := by
  have before {text front back : List Char} (first : Text.FirstAt opening text front back) :
      ¬ opening <:+: front :=
    fun inside => first.not_infix (by simp [opening]) (inside.trans (List.prefix_append ..).isInfix)
  intro text member
  induction cuts with
  | bare line plain =>
    obtain rfl := List.mem_singleton.mp member
    exact plain
  | unended line opens endless =>
    obtain rfl := List.mem_singleton.mp member
    exact before opens
  | tag opens closes later ih =>
    rcases List.mem_cons.mp member with rfl | after
    · exact before opens
    · exact ih after

end CatalogPages.Markers
