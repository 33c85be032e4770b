/-
**Texts in the order of their bytes.**

Texts are compared by their characters. Comparing their bytes comes to the same: where two texts
part, the greater character is encoded by the greater byte, whatever follows.

* `Text.bytes`: the bytes of a text;
* `utf8EncodeChar_append_lt`: the bytes of a smaller character come first;
* `bytes_lt_iff`: texts stand in the order of their bytes.
-/

namespace CatalogPages.Text

/-- The bytes of a text. -/
def bytes (text : String) : List UInt8 :=
  text.toUTF8.data.toList

theorem bytes_eq_flatMap (text : String) :
    bytes text = text.toList.flatMap String.utf8EncodeChar := by
  conv => lhs; rw [← String.ofList_toList (s := text)]
  unfold bytes
  rw [String.toUTF8_eq_toByteArray]
  exact List.toList_data_toByteArray

/-! ### One character -/

/-- A smaller byte decides. -/
theorem ofNat_cons_lt {first second : Nat} (less : first < second) (small : second < 256)
    (rest other : List UInt8) : UInt8.ofNat first :: rest < UInt8.ofNat second :: other := by
  rw [List.cons_lt_cons_iff, UInt8.lt_iff_toNat_lt, UInt8.toNat_ofNat', UInt8.toNat_ofNat',
    Nat.mod_eq_of_lt (Nat.lt_trans less small), Nat.mod_eq_of_lt small]
  exact .inl less

/-- A byte decides, or what follows it where it is the same. -/
theorem ofNat_cons_lt_of_le {first second : Nat} {rest other : List UInt8}
    (le : first ≤ second) (small : second < 256) (later : first = second → rest < other) :
    UInt8.ofNat first :: rest < UInt8.ofNat second :: other := by
  rcases Nat.lt_or_eq_of_le le with less | same
  · exact ofNat_cons_lt less small rest other
  · rw [same]
    exact List.cons_lt_cons_iff.mpr (.inr ⟨rfl, later same⟩)

/-- **The bytes of a smaller character come first**, whatever follows them. -/
theorem utf8EncodeChar_append_lt {first second : Char} (less : first < second)
    (rest other : List UInt8) :
    String.utf8EncodeChar first ++ rest < String.utf8EncodeChar second ++ other := by
  have smaller : first.val.toNat < second.val.toNat := less
  have bound : second.val.toNat < 1114112 := by
    have valid := second.valid
    simp only [UInt32.isValidChar, Nat.isValidChar] at valid
    omega
  unfold String.utf8EncodeChar
  dsimp only
  generalize first.val.toNat = m at *
  generalize second.val.toNat = n at *
  have twice (k : Nat) : k / 4096 = k / 64 / 64 := by omega
  have thrice (k : Nat) : k / 262144 = k / 64 / 64 / 64 := by omega
  simp only [twice, thrice]
  by_cases oneByte : n ≤ 127
  · rw [if_pos oneByte, if_pos (show m ≤ 127 by omega)]
    exact ofNat_cons_lt smaller (by omega) ..
  rw [if_neg oneByte]
  -- Where the second encoding is longer, its first byte is greater.
  by_cases twoBytes : n ≤ 2047
  · rw [if_pos twoBytes]
    split
    · exact ofNat_cons_lt (by omega) (by omega) ..
    · rw [if_pos (show m ≤ 2047 by omega)]
      refine ofNat_cons_lt_of_le (by omega) (by omega) fun same => ?_
      exact ofNat_cons_lt (by omega) (by omega) ..
  rw [if_neg twoBytes]
  by_cases threeBytes : n ≤ 65535
  · rw [if_pos threeBytes]
    split
    · exact ofNat_cons_lt (by omega) (by omega) ..
    · split
      · exact ofNat_cons_lt (by omega) (by omega) ..
      · rw [if_pos (show m ≤ 65535 by omega)]
        refine ofNat_cons_lt_of_le (by omega) (by omega) fun same => ?_
        refine ofNat_cons_lt_of_le (by omega) (by omega) fun same' => ?_
        exact ofNat_cons_lt (by omega) (by omega) ..
  rw [if_neg threeBytes]
  split
  · exact ofNat_cons_lt (by omega) (by omega) ..
  · split
    · exact ofNat_cons_lt (by omega) (by omega) ..
    · split
      · exact ofNat_cons_lt (by omega) (by omega) ..
      · refine ofNat_cons_lt_of_le (by omega) (by omega) fun same => ?_
        refine ofNat_cons_lt_of_le (by omega) (by omega) fun same' => ?_
        refine ofNat_cons_lt_of_le (by omega) (by omega) fun same'' => ?_
        exact ofNat_cons_lt (by omega) (by omega) ..

/-! ### Whole texts -/

/-- Encoding keeps the order of characters. -/
theorem flatMap_utf8EncodeChar_lt {first second : List Char} (less : first < second) :
    first.flatMap String.utf8EncodeChar < second.flatMap String.utf8EncodeChar := by
  induction first generalizing second with
  | nil =>
    cases second with
    | nil => exact absurd less (List.lt_irrefl [])
    | cons c second =>
      rw [List.flatMap_cons, List.flatMap_nil]
      cases encoded : String.utf8EncodeChar c with
      | nil => exact absurd encoded String.utf8EncodeChar_ne_nil
      | cons byte more => exact List.nil_lt_cons ..
  | cons c first ih =>
    cases second with
    | nil => exact absurd less (List.not_lt_nil _)
    | cons d second =>
      rw [List.flatMap_cons, List.flatMap_cons]
      rcases List.cons_lt_cons_iff.mp less with less | ⟨rfl, later⟩
      · exact utf8EncodeChar_append_lt less ..
      · exact List.append_left_lt (ih later)

/-- **Texts stand in the order of their bytes.** -/
theorem bytes_lt_iff {first second : String} : bytes first < bytes second ↔ first < second := by
  have keeps {first second : String} (less : first < second) : bytes first < bytes second := by
    rw [bytes_eq_flatMap, bytes_eq_flatMap]
    exact flatMap_utf8EncodeChar_lt (String.lt_iff.mp less)
  refine ⟨fun less => ?_, keeps⟩
  rcases Std.lt_trichotomy first second with isLess | same | more
  · exact isLess
  · exact absurd (same ▸ less) (List.lt_irrefl _)
  · exact absurd (keeps more) (List.lt_asymm less)

end CatalogPages.Text
