/-
**Where a description ends.**

A description may end in a period, which white space may stand before and after. The period goes,
and the white space with it; any other description stays as it is.

* `Text.Tight`: a text that does not end in white space;
* `Text.trimEnd_eq_iff`: what is left of a text without the white space at its end;
* `EndsInPeriod`: the parts of a description that ends in a period;
* `EndsInPeriod.unique`: a description has such parts in one way at most;
* `EndsInPeriod.cleanDescription_eq`, `cleanDescription_of_unended`: what is kept of it;
* `cleanDescription_drops_period`: with these, what becomes of every description.
-/

import CatalogPages.Library
import Mathlib.Data.List.Basic
import Mathlib.Data.List.TakeWhile

namespace CatalogPages

namespace Text

/-! ### White space at the end -/

/-- White space, and nothing else. -/
def Gap (text : List Char) : Prop :=
  ∀ c ∈ text, isBlank c = true

/-- A text that does not end in white space. -/
def Tight (text : List Char) : Prop :=
  ∀ c ∈ text.getLast?, isBlank c = false

/-- The characters of a text that are no white space. -/
def solid (text : List Char) : List Char :=
  text.filter fun c => !isBlank c

theorem tight_trimEnd (text : List Char) : Tight (trimEnd text) := by
  intro c last
  rw [trimEnd, List.getLast?_reverse] at last
  have found := List.head?_dropWhile_not isBlank text.reverse
  rw [Option.mem_def.mp last] at found
  exact found

theorem exists_gap (text : List Char) : ∃ gap, Gap gap ∧ text = trimEnd text ++ gap := by
  refine ⟨(text.reverse.takeWhile isBlank).reverse, fun c member => ?_, ?_⟩
  · exact List.mem_takeWhile_imp (List.mem_reverse.mp member)
  · rw [trimEnd, ← List.reverse_append, List.takeWhile_append_dropWhile, List.reverse_reverse]

theorem Tight.trimEnd_eq {text : List Char} (tight : Tight text) : trimEnd text = text := by
  rcases List.eq_nil_or_concat text with rfl | ⟨front, c, rfl⟩
  · rfl
  · rw [List.concat_eq_append] at tight ⊢
    exact trimEnd_append_solid front c (tight c (by simp))

/-- **What is left of a text without the white space at its end.** -/
theorem trimEnd_eq_iff (text front : List Char) :
    trimEnd text = front ↔ Tight front ∧ ∃ gap, Gap gap ∧ text = front ++ gap := by
  constructor
  · rintro rfl
    exact ⟨tight_trimEnd text, exists_gap text⟩
  · rintro ⟨tight, gap, blank, rfl⟩
    rw [trimEnd_append_blank front gap blank, tight.trimEnd_eq]

theorem Gap.solid_eq {gap : List Char} (blank : Gap gap) : solid gap = [] := by
  rw [solid, List.filter_eq_nil_iff]
  intro c member
  simp [blank c member]

/-- A period is no white space. -/
theorem Gap.not_mem_period {gap : List Char} (blank : Gap gap) : '.' ∉ gap := by
  intro member
  exact absurd (blank '.' member) (by decide)

end Text

open Text (Gap Tight solid trimEnd trimEnd_eq_iff)

/-! ### Descriptions that end in a period -/

/-- A description that ends in a period: what comes before, and the white space on both sides of the
period. -/
structure EndsInPeriod (description front before after : String) : Prop where
  whole : description = front ++ before ++ "." ++ after
  tight : Tight front.toList
  blankBefore : Gap before.toList
  blankAfter : Gap after.toList

namespace EndsInPeriod

variable {description front before after : String}

theorem toList_eq (ends : EndsInPeriod description front before after) :
    description.toList = front.toList ++ before.toList ++ ['.'] ++ after.toList := by
  rw [ends.whole, String.toList_append, String.toList_append, String.toList_append]
  rfl

/-- Without the white space at its end, the period is last. -/
theorem trimEnd_eq (ends : EndsInPeriod description front before after) :
    trimEnd description.toList = front.toList ++ before.toList ++ ['.'] := by
  refine (trimEnd_eq_iff _ _).mpr ⟨fun c last => ?_, _, ends.blankAfter, ends.toList_eq⟩
  obtain rfl : '.' = c := by simpa using last
  decide

/-- **The period goes, with the white space on both sides.** -/
theorem cleanDescription_eq (ends : EndsInPeriod description front before after) :
    cleanDescription description = front := by
  have kept : trimEnd (front.toList ++ before.toList) = front.toList :=
    (trimEnd_eq_iff _ _).mpr ⟨ends.tight, _, ends.blankBefore, rfl⟩
  rw [cleanDescription, ends.trimEnd_eq, List.reverse_append]
  show String.ofList (trimEnd (front.toList ++ before.toList).reverse.reverse) = front
  rw [List.reverse_reverse, kept, String.ofList_toList]

/-- What the description loses has one character that is no white space. -/
theorem solid_lost (ends : EndsInPeriod description front before after) :
    solid (before ++ "." ++ after).toList = ['.'] := by
  rw [String.toList_append, String.toList_append, solid, List.filter_append, List.filter_append]
  have first := ends.blankBefore.solid_eq
  have last := ends.blankAfter.solid_eq
  rw [solid] at first last
  rw [first, last]
  rfl

/-- **A description ends in a period in one way.** -/
theorem unique (ends : EndsInPeriod description front before after)
    {front' before' after' : String} (ends' : EndsInPeriod description front' before' after') :
    front' = front ∧ before' = before ∧ after' = after := by
  have same : front' = front := ends'.cleanDescription_eq.symm.trans ends.cleanDescription_eq
  subst same
  have whole := ends'.toList_eq.symm.trans ends.toList_eq
  simp only [List.append_assoc, List.append_cancel_left_eq, List.singleton_append] at whole
  obtain ⟨gaps, -, tails⟩ := (List.append_cons_inj_of_notMem ends'.blankBefore.not_mem_period
    ends'.blankAfter.not_mem_period).mp whole
  exact ⟨rfl, String.toList_inj.mp gaps, String.toList_inj.mp tails⟩

end EndsInPeriod

/-- A text that has a period at its end, but for white space, is a description that ends in one. -/
theorem exists_endsInPeriod {description : String} {front : List Char}
    (last : trimEnd description.toList = front ++ ['.']) :
    ∃ before after,
      EndsInPeriod description (String.ofList (trimEnd front)) before after := by
  obtain ⟨-, after, blankAfter, whole⟩ := (trimEnd_eq_iff _ _).mp last
  obtain ⟨tight, before, blankBefore, parts⟩ := (trimEnd_eq_iff front _).mp rfl
  refine ⟨String.ofList before, String.ofList after, ?_, ?_, ?_, ?_⟩
  · have point : ".".toList = ['.'] := rfl
    rw [← String.toList_inj, whole]
    simp only [String.toList_append, String.toList_ofList, point, ← parts]
  · rwa [String.toList_ofList]
  · rwa [String.toList_ofList]
  · rwa [String.toList_ofList]

/-- **A description that does not end in a period stays as it is.** -/
theorem cleanDescription_of_unended {description : String}
    (unended : ∀ front before after, ¬ EndsInPeriod description front before after) :
    cleanDescription description = description := by
  unfold cleanDescription
  split
  · next backwards last =>
    have turned := congrArg List.reverse last
    rw [List.reverse_reverse, List.reverse_cons] at turned
    obtain ⟨before, after, ends⟩ := exists_endsInPeriod turned
    exact absurd ends (unended _ before after)
  · rfl

/-- **One final period goes, and the white space around it.** The parts of a description that ends
in a period are determined, and the first is what is left of it; any other description is left as it
is, white space and all. So what is left is the front of the description, and the rest of it is
white space with one period at most. -/
theorem cleanDescription_drops_period (description : String) :
    (∀ front before after, EndsInPeriod description front before after →
      cleanDescription description = front ∧
      ∀ front' before' after', EndsInPeriod description front' before' after' →
        front' = front ∧ before' = before ∧ after' = after) ∧
    ((∀ front before after, ¬ EndsInPeriod description front before after) →
      cleanDescription description = description) ∧
    ∃ lost, description = cleanDescription description ++ lost ∧
      (solid lost.toList = [] ∨ solid lost.toList = ['.']) := by
  refine ⟨fun front before after ends => ?_, cleanDescription_of_unended, ?_⟩
  · exact ⟨ends.cleanDescription_eq, fun _ _ _ ends' => ends.unique ends'⟩
  · by_cases ended : ∃ front before after, EndsInPeriod description front before after
    · obtain ⟨front, before, after, ends⟩ := ended
      refine ⟨before ++ "." ++ after, ?_, .inr ends.solid_lost⟩
      rw [ends.cleanDescription_eq, ← String.append_assoc, ← String.append_assoc]
      exact ends.whole
    · have stays := cleanDescription_of_unended fun front before after ends =>
        ended ⟨front, before, after, ends⟩
      refine ⟨"", ?_, .inl rfl⟩
      rw [stays, String.append_empty]

/-- Of two periods the last goes, and no white space in front of the first. -/
example : cleanDescription "Etc .\t. " = "Etc ." := by cbv

end CatalogPages
