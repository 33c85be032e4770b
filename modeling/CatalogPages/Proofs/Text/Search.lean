/-
**First occurrences.**

`cutAt?` finds a text where it occurs first, and finds nothing only where it does not occur.

* `FirstAt`: an occurrence before which none starts;
* `FirstAt.not_infix`: up to its last character there is none;
* `replaceFirst_of_firstAt`: `replaceFirst` exchanges this occurrence;
* `replaceAll_of_firstAt`: `replaceAll` exchanges it and goes on after it.
-/

import CatalogPages.Text.Search

namespace CatalogPages.Text

theorem after?_append (head rest : List Char) : after? head (head ++ rest) = some rest :=
  after?_eq_some.mpr rfl

/-- Nothing is found exactly where the text does not occur. -/
theorem cutAt?_eq_none_iff (find text : List Char) :
    cutAt? find text = none ↔ ¬ find <:+: text := by
  induction text with
  | nil =>
    cases find with
    | nil => simp [cutAt?, after?]
    | cons c find => simp [cutAt?, after?]
  | cons c text ih =>
    unfold cutAt?
    cases found : after? find (c :: text) with
    | some rest =>
      have starts : find <+: c :: text := ⟨rest, (after?_eq_some.mp found).symm⟩
      simp [starts.isInfix]
    | none =>
      have other : ¬ find <+: c :: text := by
        rintro ⟨rest, same⟩
        rw [← same, after?_append] at found
        cases found
      simp [ih, List.infix_cons_iff, other]

/-- No occurrence starts before the one that is found. -/
theorem length_le_of_cutAt? {find text before rest front back : List Char}
    (cut : cutAt? find text = some (before, rest)) (occurs : text = front ++ find ++ back) :
    before.length ≤ front.length := by
  induction text generalizing before front with
  | nil =>
    simp only [cutAt?, Option.map_eq_some_iff, Prod.mk.injEq] at cut
    obtain ⟨_, -, rfl, -⟩ := cut
    exact Nat.zero_le _
  | cons c text ih =>
    unfold cutAt? at cut
    split at cut
    · simp only [Option.some.injEq, Prod.mk.injEq] at cut
      obtain ⟨rfl, -⟩ := cut
      exact Nat.zero_le _
    · next missing =>
      simp only [Option.map_eq_some_iff, Prod.mk.injEq, Prod.exists] at cut
      obtain ⟨before, rest, found, rfl, rfl⟩ := cut
      cases front with
      | nil =>
        rw [occurs, List.nil_append, after?_append] at missing
        cases missing
      | cons d front =>
        simp only [List.cons_append, List.cons.injEq] at occurs
        have := ih found occurs.2
        simpa using this

/-- A text with an occurrence of another, before which there is none. -/
structure FirstAt (find text front back : List Char) : Prop where
  occurs : text = front ++ find ++ back
  first : ∀ front' back', text = front' ++ find ++ back' → front.length ≤ front'.length

theorem firstAt_of_cutAt? {find text before rest : List Char}
    (cut : cutAt? find text = some (before, rest)) : FirstAt find text before rest :=
  ⟨eq_of_cutAt?_eq_some cut, fun _ _ => length_le_of_cutAt? cut⟩

/-- Up to the last character of the first occurrence there is none. -/
theorem FirstAt.not_infix {find text front back : List Char} (holds : find ≠ [])
    (first : FirstAt find text front back) : ¬ find <:+: front ++ find.dropLast := by
  rintro ⟨front', back', same⟩
  have whole : find = find.dropLast ++ [find.getLast holds] :=
    (List.dropLast_concat_getLast holds).symm
  have occurs : text = front' ++ find ++ (back' ++ find.getLast holds :: back) := by
    calc text = front ++ find ++ back := first.occurs
      _ = (front ++ find.dropLast) ++ (find.getLast holds :: back) := by
        conv => lhs; rw [whole]
        simp
      _ = front' ++ find ++ (back' ++ find.getLast holds :: back) := by
        rw [← same]
        simp
  have earlier := first.first _ _ occurs
  have size := congrArg List.length same
  have positive := List.length_pos_iff.mpr holds
  simp only [List.length_append, List.length_dropLast] at size
  omega

/-- There is one first occurrence. -/
theorem FirstAt.unique {find text front back front' back' : List Char}
    (first : FirstAt find text front back) (other : FirstAt find text front' back') :
    front = front' ∧ back = back' := by
  have size : front.length = front'.length :=
    Nat.le_antisymm (first.first _ _ other.occurs) (other.first _ _ first.occurs)
  have same : front ++ (find ++ back) = front' ++ (find ++ back') := by
    rw [← List.append_assoc, ← List.append_assoc, ← first.occurs, ← other.occurs]
  obtain ⟨rfl, after⟩ := List.append_inj same size
  exact ⟨rfl, List.append_cancel_left after⟩

/-- The first occurrence is the one that is exchanged. -/
theorem replaceFirst_of_firstAt {find text front back : List Char} (replacement : List Char)
    (first : FirstAt find text front back) :
    replaceFirst find replacement text = front ++ replacement ++ back := by
  unfold replaceFirst
  cases cut : cutAt? find text with
  | none =>
    exact absurd ⟨front, back, first.occurs.symm⟩ ((cutAt?_eq_none_iff find text).mp cut)
  | some parts =>
    obtain ⟨rfl, rfl⟩ := first.unique (firstAt_of_cutAt? cut)
    rfl

/-- Where there is an occurrence there is a first one. -/
theorem exists_firstAt {find text : List Char} (occurs : find <:+: text) :
    ∃ front back, FirstAt find text front back := by
  cases cut : cutAt? find text with
  | none => exact absurd occurs ((cutAt?_eq_none_iff find text).mp cut)
  | some parts => exact ⟨parts.1, parts.2, firstAt_of_cutAt? cut⟩

/-- An occurrence up to whose last character there is none is the first. -/
theorem firstAt_of_not_infix {find front : List Char} (back : List Char)
    (missing : ¬ find <:+: front ++ find.dropLast) :
    FirstAt find (front ++ find ++ back) front back where
  occurs := rfl
  first front' back' same := by
    -- An earlier occurrence ends before the last character of this one.
    refine Nat.le_of_not_lt fun earlier => missing ?_
    have whole : front ++ find.dropLast <+: front' ++ find ++ back' := by
      rw [← same, List.append_assoc]
      exact List.prefix_append_right_inj front |>.mpr
        ((List.dropLast_prefix find).trans (List.prefix_append find back))
    have part : front' ++ find <+: front ++ find.dropLast := by
      refine List.prefix_of_prefix_length_le (List.prefix_append _ back') whole ?_
      simp only [List.length_append, List.length_dropLast]
      omega
    exact (List.suffix_append front' find).isInfix.trans part.isInfix

/-- The first occurrence stays the first, whatever comes after it. -/
theorem FirstAt.followedBy {find text front back : List Char} (holds : find ≠ [])
    (first : FirstAt find text front back) (other : List Char) :
    FirstAt find (front ++ find ++ other) front other :=
  firstAt_of_not_infix other (first.not_infix holds)

/-- Without an occurrence nothing is exchanged. -/
theorem replaceFirst_of_not_infix {find text : List Char} (replacement : List Char)
    (missing : ¬ find <:+: text) : replaceFirst find replacement text = text := by
  unfold replaceFirst
  rw [(cutAt?_eq_none_iff find text).mpr missing]

/-- The first occurrence is exchanged, and then those after it. -/
theorem replaceAll_of_firstAt {find text front back : List Char} (replacement : List Char)
    (holds : find ≠ []) (first : FirstAt find text front back) :
    replaceAll find replacement text =
      front ++ replacement ++ replaceAll find replacement back := by
  conv => lhs; unfold replaceAll
  rw [dif_neg holds]
  split
  · next missing =>
    exact absurd ⟨front, back, first.occurs.symm⟩ ((cutAt?_eq_none_iff find text).mp missing)
  · next cut =>
    obtain ⟨rfl, rfl⟩ := first.unique (firstAt_of_cutAt? cut)
    rfl

/-- Where nothing occurs nothing is exchanged. -/
theorem replaceAll_of_not_infix {find text : List Char} (replacement : List Char)
    (missing : ¬ find <:+: text) : replaceAll find replacement text = text := by
  unfold replaceAll
  split
  · rfl
  · split
    · rfl
    · next cut =>
      exact absurd ⟨_, _, (firstAt_of_cutAt? cut).occurs.symm⟩ missing

end CatalogPages.Text
