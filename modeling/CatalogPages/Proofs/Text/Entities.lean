/-
**Entities.**

In an escaped text five characters are spelled as entities, and every other one as itself.

* `Spelled`: how a character is spelled;
* `place_of_escape_eq`: a place in an escaped text is between two characters of the text, or inside
  the entity of one;
* `unescape`: the text with every entity exchanged, which undoes `escape` (`unescape_escape`);
* `exists_of_escape_eq`: a text without `&` and `;` that is longer than what an entity has between
  them occurs in an escaped text only where it occurs in the text.
-/

import CatalogPages.Text.Escape
import CatalogPages.Proofs.Text.Search
import Mathlib.Data.List.Forall2
import Mathlib.Tactic.SplitIfs

namespace CatalogPages.Text

/-- The characters that have a meaning, each with its entity. -/
def entities : List (Char × List Char) := [
  ('&', "&amp;".toList), ('<', "&lt;".toList), ('>', "&gt;".toList), ('"', "&quot;".toList),
  ('\'', "&#x27;".toList)]

/-- The characters that have a meaning. -/
def meaningful : List Char :=
  ['&', '<', '>', '"', '\'']

/-- The spelling of a character in an escaped text. -/
inductive Spelled : Char → List Char → Prop
  | entity {c : Char} {spelling : List Char} (known : (c, spelling) ∈ entities) :
      Spelled c spelling
  | plain {c : Char} (meaningless : c ∉ meaningful) : Spelled c [c]

/-- An entity starts with `&` and ends with `;`. Between them it has neither, and no more than four
characters. -/
theorem shape_of_mem_entities {c : Char} {spelling : List Char} (known : (c, spelling) ∈ entities) :
    ∃ between, spelling = '&' :: between ++ [';'] ∧ '&' ∉ between ∧ ';' ∉ between ∧
      between.length ≤ 4 := by
  simp only [entities, List.mem_cons, Prod.mk.injEq, List.not_mem_nil, or_false] at known
  rcases known with ⟨-, rfl⟩ | ⟨-, rfl⟩ | ⟨-, rfl⟩ | ⟨-, rfl⟩ | ⟨-, rfl⟩
  · exact ⟨"amp".toList, by decide⟩
  · exact ⟨"lt".toList, by decide⟩
  · exact ⟨"gt".toList, by decide⟩
  · exact ⟨"quot".toList, by decide⟩
  · exact ⟨"#x27".toList, by decide⟩

theorem spelled_escapeChar (c : Char) : Spelled c (escapeChar c) := by
  unfold escapeChar
  split_ifs with ampersand less greater quote apostrophe
  · exact .entity (by simp [entities, ampersand])
  · exact .entity (by simp [entities, less])
  · exact .entity (by simp [entities, greater])
  · exact .entity (by simp [entities, quote])
  · exact .entity (by simp [entities, apostrophe])
  · exact .plain (by simp [meaningful, ampersand, less, greater, quote, apostrophe])

theorem escape_cons (c : Char) (text : List Char) :
    escape (c :: text) = escapeChar c ++ escape text :=
  List.flatMap_cons

theorem escape_append (first second : List Char) :
    escape (first ++ second) = escape first ++ escape second :=
  List.flatMap_append

/-- Every character of a text is spelled, in order. -/
theorem exists_spelled (text : List Char) :
    ∃ spellings, escape text = spellings.flatten ∧ List.Forall₂ Spelled text spellings := by
  refine ⟨text.map escapeChar, List.flatMap_def, ?_⟩
  rw [List.forall₂_map_right_iff, List.forall₂_same]
  exact fun c _ => spelled_escapeChar c

/-- Of the characters that have a meaning only `&` is left. -/
theorem not_mem_escape (text : List Char) : ∀ c ∈ escape text, c ∉ ['<', '>', '"', '\''] := by
  intro c member
  obtain ⟨d, -, among⟩ := List.mem_flatMap.mp member
  have spelled := spelled_escapeChar d
  generalize escapeChar d = spelling at spelled among
  cases spelled with
  | entity known =>
    have harmless : ∀ entry ∈ entities, ∀ c ∈ entry.2, c ∉ ['<', '>', '"', '\''] := by
      simp [entities]
    exact harmless _ known c among
  | plain meaningless =>
    obtain rfl := List.mem_singleton.mp among
    exact fun meant => meaningless (List.mem_cons_of_mem _ meant)

/-- A text in which no character has a meaning is its own spelling. -/
theorem escape_of_plain {text : List Char} (plain : ∀ c ∈ text, c ∉ meaningful) :
    escape text = text := by
  induction text with
  | nil => rfl
  | cons c text ih =>
    have here : escapeChar c = [c] := by
      have meaningless := plain c List.mem_cons_self
      simp only [meaningful, List.mem_cons, List.not_mem_nil, or_false, not_or] at meaningless
      simp [escapeChar, meaningless]
    rw [escape_cons, here, ih fun d member => plain d (List.mem_cons_of_mem _ member),
      List.singleton_append]

/-- A spelling without `&` is that of a text in which no character has a meaning. -/
theorem escape_eq_self {text : List Char} (unmarked : '&' ∉ escape text) : escape text = text := by
  refine escape_of_plain fun c member meant => unmarked ?_
  refine List.mem_flatMap.mpr ⟨c, member, ?_⟩
  have spelled := spelled_escapeChar c
  generalize escapeChar c = spelling at spelled ⊢
  cases spelled with
  | entity known =>
    obtain ⟨between, rfl, -⟩ := shape_of_mem_entities known
    exact List.mem_cons_self
  | plain meaningless => exact absurd meant meaningless

/-! ### Places in an escaped text -/

/-- A place in the escaped text, by what is before it and what is after it: it is between two
characters of the text, or inside the entity of one. -/
inductive Place (text : List Char) : List Char → List Char → Prop
  | edge {before after : List Char} (split : text = before ++ after) :
      Place text (escape before) (escape after)
  | inside {before after start finish : List Char} (unmarked : '&' ∉ start ++ finish)
      (unended : ';' ∉ start ++ finish) (short : (start ++ finish).length ≤ 4) :
      Place text (escape before ++ '&' :: start) (finish ++ ';' :: escape after)

/-- **A place in an escaped text** is between two characters or inside an entity. -/
theorem place_of_escape_eq {text front back : List Char} (split : escape text = front ++ back) :
    Place text front back := by
  rw [escape, List.flatMap_def, List.flatten_eq_append_iff] at split
  rcases split with ⟨_, _, spellings, rfl, rfl⟩ | ⟨_, start, d, finish, _, spellings, rfl, rfl⟩
  · obtain ⟨before, after, rfl, rfl, rfl⟩ := List.map_eq_append_iff.mp spellings
    rw [← List.flatMap_def, ← List.flatMap_def]
    exact .edge rfl
  · obtain ⟨before, _, rfl, rfl, later⟩ := List.map_eq_append_iff.mp spellings
    obtain ⟨c, after, rfl, here, rfl⟩ := List.map_eq_cons_iff.mp later
    rw [← List.flatMap_def, ← List.flatMap_def]
    cases start with
    | nil =>
      rw [List.append_nil, ← List.nil_append (d :: finish), ← here, ← List.flatMap_cons]
      exact .edge rfl
    | cons s start =>
      -- Only an entity has more than one character.
      have spelled := spelled_escapeChar c
      rw [here] at spelled
      generalize isSpelling : s :: start ++ d :: finish = spelling at spelled
      cases spelled with
      | plain => simp at isSpelling
      | entity known =>
        obtain ⟨between, rfl, unmarked, unended, short⟩ := shape_of_mem_entities known
        obtain ⟨rfl, tail⟩ : s = '&' ∧ start ++ d :: finish = between ++ [';'] :=
          List.cons.inj isSpelling
        rw [← List.dropLast_concat_getLast (List.cons_ne_nil d finish)] at tail ⊢
        rw [← List.append_assoc] at tail
        obtain ⟨rfl, last⟩ := List.append_inj' tail rfl
        rw [last, List.append_assoc, List.singleton_append]
        exact .inside unmarked unended short

/-- **Every `&` begins an entity.** -/
theorem exists_entity_of_ampersand {text front back : List Char}
    (split : escape text = front ++ '&' :: back) :
    ∃ entry ∈ entities, entry.2 <+: '&' :: back := by
  generalize isRest : '&' :: back = rest at split ⊢
  cases place_of_escape_eq split with
  | @inside before after start finish unmarked =>
    cases finish with
    | nil => simp at isRest
    | cons d finish =>
      obtain ⟨rfl, -⟩ := List.cons.inj isRest
      simp at unmarked
  | @edge before after =>
    cases after with
    | nil => simp [escape] at isRest
    | cons c after =>
      rw [escape_cons] at isRest ⊢
      have spelled := spelled_escapeChar c
      generalize escapeChar c = spelling at spelled isRest
      cases spelled with
      | entity known => exact ⟨_, known, List.prefix_append _ _⟩
      | plain meaningless =>
        obtain ⟨rfl, -⟩ := List.cons.inj isRest
        exact absurd List.mem_cons_self meaningless

/-- **What is too long for an entity occurs only where the text has it.** -/
theorem exists_of_escape_eq {find text front back : List Char} (unmarked : '&' ∉ find)
    (unended : ';' ∉ find) (long : 5 ≤ find.length) (occurs : escape text = front ++ find ++ back) :
    ∃ before after, text = before ++ find ++ after ∧ front = escape before ∧
      back = escape after := by
  rw [List.append_assoc] at occurs
  generalize isRest : find ++ back = rest at occurs
  cases place_of_escape_eq occurs with
  | @inside before after start finish _ _ short =>
    -- The rest of an entity is shorter than what is looked for, and `;` comes after it.
    exfalso
    rcases List.append_eq_append_iff.mp isRest with ⟨more, rfl, -⟩ | ⟨more, rfl, tail⟩
    · simp only [List.length_append] at short
      omega
    · cases more with
      | nil =>
        simp only [List.length_append, List.append_nil] at short long
        omega
      | cons d more =>
        obtain ⟨rfl, -⟩ := List.cons.inj tail
        simp at unended
  | @edge before after split =>
    cases place_of_escape_eq isRest.symm with
    | inside => simp at unmarked
    | @edge middle after split' =>
      rw [escape_eq_self unmarked]
      exact ⟨before, after, by rw [split, split', List.append_assoc], rfl, rfl⟩

/-! ### Back to the text -/

/-- The character whose entity a text starts with, and what follows the entity. -/
def entity? (text : List Char) : Option (Char × List Char) :=
  entities.findSome? fun (c, spelling) => (after? spelling text).map fun rest => (c, rest)

theorem length_lt_of_entity? {text rest : List Char} {c : Char}
    (found : entity? text = some (c, rest)) : rest.length < text.length := by
  obtain ⟨⟨d, spelling⟩, known, starts⟩ := List.exists_of_findSome?_eq_some found
  obtain ⟨_, follows, same⟩ := Option.map_eq_some_iff.mp starts
  obtain ⟨rfl, rfl⟩ := Prod.mk.inj same
  obtain ⟨between, rfl, -⟩ := shape_of_mem_entities known
  rw [after?_eq_some.mp follows]
  simp only [List.length_append, List.length_cons]
  omega

/-- The text with every entity exchanged for its character, from left to right. -/
def unescape : List Char → List Char
  | [] => []
  | c :: text =>
    match _found : entity? (c :: text) with
    | some (meant, rest) => meant :: unescape rest
    | none => c :: unescape text
termination_by text => text.length
decreasing_by
  · exact length_lt_of_entity? _found
  · exact Nat.lt_succ_self _

theorem unescape_of_entity {text rest : List Char} {c : Char}
    (found : entity? text = some (c, rest)) : unescape text = c :: unescape rest := by
  cases text with
  | nil => cases found
  | cons d text =>
    rw [unescape]
    split
    · next found' =>
      obtain ⟨rfl, rfl⟩ := Prod.mk.inj (Option.some.inj (found.symm.trans found'))
      rfl
    · next missing => cases found.symm.trans missing

theorem unescape_of_plain {text : List Char} {c : Char} (missing : entity? (c :: text) = none) :
    unescape (c :: text) = c :: unescape text := by
  rw [unescape]
  split
  · next found => cases missing.symm.trans found
  · rfl

theorem entity?_spelling {c : Char} {spelling : List Char} (known : (c, spelling) ∈ entities)
    (rest : List Char) : entity? (spelling ++ rest) = some (c, rest) := by
  simp only [entities, List.mem_cons, Prod.mk.injEq, List.not_mem_nil, or_false] at known
  rcases known with ⟨rfl, rfl⟩ | ⟨rfl, rfl⟩ | ⟨rfl, rfl⟩ | ⟨rfl, rfl⟩ | ⟨rfl, rfl⟩ <;> rfl

theorem entity?_of_ne {c : Char} (unmarked : c ≠ '&') (text : List Char) :
    entity? (c :: text) = none := by
  simp [entity?, entities, after?, Ne.symm unmarked]

/-- A spelling is read as its character. -/
theorem unescape_escapeChar (c : Char) (rest : List Char) :
    unescape (escapeChar c ++ rest) = c :: unescape rest := by
  have spelled := spelled_escapeChar c
  generalize escapeChar c = spelling at spelled
  cases spelled with
  | entity known => exact unescape_of_entity (entity?_spelling known rest)
  | plain meaningless =>
    have unmarked : c ≠ '&' := by
      rintro rfl
      exact meaningless List.mem_cons_self
    exact unescape_of_plain (entity?_of_ne unmarked rest)

/-- **Escaping is undone.** -/
theorem unescape_escape (text : List Char) : unescape (escape text) = text := by
  induction text with
  | nil => rw [escape, List.flatMap_nil, unescape]
  | cons c text ih => rw [escape_cons, unescape_escapeChar, ih]

end CatalogPages.Text
