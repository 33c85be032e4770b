/-
**Search and replacement.**

* `cutAt?`: a text at the first place where another occurs.
* `replaceFirst`: that occurrence exchanged.
* `replaceAll`: every occurrence exchanged, from left to right, without overlap.
-/

namespace CatalogPages.Text

/-- What follows `head` in a text that starts with it. -/
def after? : (head text : List Char) → Option (List Char)
  | [], text => some text
  | _ :: _, [] => none
  | h :: head, c :: text => if h = c then after? head text else none

/-- The text before the first occurrence of `find`, and the text after it. -/
def cutAt? (find : List Char) : List Char → Option (List Char × List Char)
  | [] => (after? find []).map ([], ·)
  | c :: text =>
    match after? find (c :: text) with
    | some rest => some ([], rest)
    | none => (cutAt? find text).map fun (before, rest) => (c :: before, rest)

/-- The text with the first occurrence of `find` exchanged. -/
def replaceFirst (find replacement text : List Char) : List Char :=
  match cutAt? find text with
  | some (before, rest) => before ++ replacement ++ rest
  | none => text

theorem after?_eq_some {head text rest : List Char} :
    after? head text = some rest ↔ text = head ++ rest := by
  induction head generalizing text with
  | nil => simp [after?, eq_comm]
  | cons h head ih =>
    cases text with
    | nil => simp [after?]
    | cons c text =>
      by_cases same : h = c
      · simp [after?, same, ih]
      · simp [after?, same, Ne.symm same]

/-- A cut loses nothing but the text that was looked for. -/
theorem eq_of_cutAt?_eq_some {find text before rest : List Char}
    (cut : cutAt? find text = some (before, rest)) : text = before ++ find ++ rest := by
  induction text generalizing before with
  | nil =>
    simp only [cutAt?, Option.map_eq_some_iff, Prod.mk.injEq] at cut
    obtain ⟨_, found, rfl, rfl⟩ := cut
    simpa using after?_eq_some.mp found
  | cons c text ih =>
    unfold cutAt? at cut
    split at cut
    · next found =>
      simp only [Option.some.injEq, Prod.mk.injEq] at cut
      obtain ⟨rfl, rfl⟩ := cut
      simpa using after?_eq_some.mp found
    · simp only [Option.map_eq_some_iff, Prod.mk.injEq, Prod.exists] at cut
      obtain ⟨front, _, found, rfl, rfl⟩ := cut
      simp [ih found]

/-- The text with every occurrence of `find` exchanged, from left to right. Nothing to find leaves
the text as it is. -/
def replaceAll (find replacement text : List Char) : List Char :=
  if _nothing : find = [] then text
  else
    match _cut : cutAt? find text with
    | none => text
    | some (before, rest) => before ++ replacement ++ replaceAll find replacement rest
termination_by text.length
decreasing_by
  have size := congrArg List.length (eq_of_cutAt?_eq_some _cut)
  have := List.length_pos_iff.mpr _nothing
  simp only [List.length_append] at size
  omega

@[simp] theorem replaceAll_nil_find (replacement text : List Char) :
    replaceAll [] replacement text = text := by
  simp [replaceAll]

end CatalogPages.Text
