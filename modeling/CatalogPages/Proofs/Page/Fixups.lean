/-
**Fixups and entities.**

Fixups are applied to finished pages, in which the texts of the metadata are escaped. They do there
what they would do in the texts themselves, if they look for nothing that an entity could hold.

* `Fixup.SparesEntities`: what such a fixup looks for and what it puts in;
* `FirstAt.escape`: the first place where a text occurs is the same in an escaped text;
* `applyAll_escape`: such fixups, one after another, may as well be applied before a text is
  escaped. The fixups of a release that names no others are such fixups.
-/

import CatalogPages.Fixup
import CatalogPages.Proofs.Text.Entities

namespace CatalogPages

namespace Text

variable {find : List Char}

/-- The first occurrence of a text that no entity could hold is the first one in the escaped
text. -/
theorem FirstAt.escape {text front back : List Char} (first : FirstAt find text front back)
    (plain : ∀ c ∈ find, c ∉ meaningful) (unended : ';' ∉ find) (long : 5 ≤ find.length) :
    FirstAt find (escape text) (escape front) (escape back) where
  occurs := by rw [first.occurs, escape_append, escape_append, escape_of_plain plain]
  first front' back' occurs := by
    have unmarked : '&' ∉ find := fun member => plain '&' member List.mem_cons_self
    obtain ⟨before, after, same, rfl, rfl⟩ := exists_of_escape_eq unmarked unended long occurs
    -- An occurrence in the text is no earlier than the first, and escaping keeps the order.
    have starts : front <+: text := ⟨find ++ back, by rw [first.occurs, List.append_assoc]⟩
    have starts' : before <+: text := ⟨find ++ after, by rw [same, List.append_assoc]⟩
    obtain ⟨between, rfl⟩ :=
      List.prefix_of_prefix_length_le starts starts' (first.first _ _ same)
    rw [escape_append, List.length_append]
    exact Nat.le_add_right _ _

/-- Exchanging such a text and escaping can be done in either order. -/
theorem replaceAll_escape {replacement : List Char} (plain : ∀ c ∈ find, c ∉ meaningful)
    (unended : ';' ∉ find) (long : 5 ≤ find.length)
    (harmless : ∀ c ∈ replacement, c ∉ meaningful) (text : List Char) :
    replaceAll find replacement (escape text) = escape (replaceAll find replacement text) := by
  have unmarked : '&' ∉ find := fun member => plain '&' member List.mem_cons_self
  have holds : find ≠ [] := List.ne_nil_of_length_pos (by omega)
  fun_induction replaceAll find replacement text with
  | case1 text => contradiction
  | case2 text _ missing =>
    refine replaceAll_of_not_infix replacement ?_
    rintro ⟨front, back, occurs⟩
    obtain ⟨before, after, same, -⟩ := exists_of_escape_eq unmarked unended long occurs.symm
    exact (cutAt?_eq_none_iff find text).mp missing ⟨before, after, same.symm⟩
  | case3 text _ before rest cut ih =>
    have first := (firstAt_of_cutAt? cut).escape plain unended long
    rw [replaceAll_of_firstAt replacement holds first, ih, escape_append, escape_append,
      escape_of_plain harmless]

end Text

open Text (escape meaningful)

namespace Fixup

/-- A fixup that looks for nothing, or for a text that no entity could hold, and that puts in no
character with a meaning. -/
structure SparesEntities (fixup : Fixup) : Prop where
  long : fixup.find ≠ "" → 5 ≤ fixup.find.length
  plain : ∀ c ∈ fixup.find.toList, c ∉ ';' :: meaningful
  harmless : ∀ c ∈ fixup.replace.toList, c ∉ meaningful

/-- Such a fixup does in an escaped text what it does in the text. -/
theorem SparesEntities.apply_escape {fixup : Fixup} (spares : fixup.SparesEntities)
    (text : List Char) : fixup.apply (escape text) = escape (fixup.apply text) := by
  by_cases idle : fixup.find = ""
  · simp [apply, idle]
  · have plain : ∀ c ∈ fixup.find.toList, c ∉ meaningful := fun c member meant =>
      spares.plain c member (List.mem_cons_of_mem _ meant)
    have unended : ';' ∉ fixup.find.toList := fun member =>
      spares.plain ';' member List.mem_cons_self
    exact Text.replaceAll_escape plain unended (spares.long idle) spares.harmless text

/-- Dropping an attribution spares entities, if it is long enough and nothing in it or in the
sentence has a meaning. -/
theorem sparesEntities_dropAttribution {sentence attribution : String}
    (long : 5 ≤ attribution.length)
    (plain : (sentence ++ attribution).toList.all fun c => !(';' :: meaningful).contains c) :
    (dropAttribution sentence attribution).SparesEntities := by
  have plain : ∀ c ∈ (sentence ++ attribution).toList, c ∉ ';' :: meaningful := by
    intro c member meant
    have other := List.all_eq_true.mp plain c member
    rw [List.contains_iff_mem.mpr meant] at other
    exact absurd other (by decide)
  refine ⟨fun _ => ?_, plain, fun c member meant => ?_⟩
  · rw [dropAttribution, String.length_append]
    omega
  · have among : c ∈ (sentence ++ attribution).toList := by
      rw [String.toList_append]
      exact List.mem_append_left _ member
    exact plain c among (List.mem_cons_of_mem _ meant)

theorem sparesEntities_of_mem_standard : ∀ fixup ∈ standard, fixup.SparesEntities := by
  intro fixup member
  simp only [standard, List.mem_cons, List.not_mem_nil, or_false] at member
  rcases member with rfl | rfl
  · exact sparesEntities_dropAttribution (by decide) (by decide +kernel)
  · exact sparesEntities_dropAttribution (by decide) (by decide +kernel)

/-- **Fixups see the text that the metadata holds.** Fixups that spare entities come to the same
whether a text is escaped before or after them, and those of a release that names no others do. -/
theorem applyAll_escape {fixups : List Fixup} (spares : ∀ fixup ∈ fixups, fixup.SparesEntities)
    (text : List Char) :
    applyAll fixups (escape text) = escape (applyAll fixups text) ∧
      ∀ fixup ∈ standard, fixup.SparesEntities := by
  refine ⟨?_, sparesEntities_of_mem_standard⟩
  unfold applyAll
  induction fixups generalizing text with
  | nil => rfl
  | cons fixup fixups ih =>
    rw [List.foldl_cons, List.foldl_cons, (spares fixup List.mem_cons_self).apply_escape]
    exact ih (fun other member => spares other (List.mem_cons_of_mem _ member)) _

/-- A fixup that starts like an entity, and one that looks for what it has put in. -/
def quotaFixups : List Fixup :=
  [⟨"quota", "unquoted"⟩, ⟨"", "nothing"⟩, ⟨"unquoted", "a;b"⟩]

/-- In an escaped text the quotes around a word are left as they are when the word is exchanged. -/
theorem applyAll_escape_quota :
    (∀ fixup ∈ quotaFixups, fixup.SparesEntities) ∧
      applyAll quotaFixups "&quot;quota&quot; &amp; quot".toList =
        "&quot;a;b&quot; &amp; quot".toList := by
  have spares : ∀ fixup ∈ quotaFixups, fixup.SparesEntities := by
    intro fixup member
    simp only [quotaFixups, List.mem_cons, List.not_mem_nil, or_false] at member
    rcases member with rfl | rfl | rfl
    · exact ⟨fun _ => by decide, by simp [meaningful], by simp [meaningful]⟩
    · exact ⟨fun named => absurd rfl named, by simp, by simp [meaningful]⟩
    · exact ⟨fun _ => by decide, by simp [meaningful], by simp [meaningful]⟩
  have exchanged : applyAll quotaFixups "\"quota\" & quot".toList = "\"a;b\" & quot".toList := by
    cbv
  refine ⟨spares, (applyAll_escape spares "\"quota\" & quot".toList).1.trans ?_⟩
  rw [exchanged]
  decide

end Fixup

end CatalogPages
