/-
**Places in the bytes of a text.**

A place in a text is a number of bytes. Only where a character starts, or where the text ends, can
the text be cut.

* `place?`: where some bytes occur first in others;
* `slice?`: what a text holds between two places, if it can be cut there;
* `place?_encoded_of_firstAt`, `place?_encoded_of_not_infix`: the bytes of a text occur first where
  the text does, so that no occurrence starts inside a character;
* `slice?_append`: a text can be cut where a part of it ends.
-/

import CatalogPages.Proofs.Text.ByteOrder
import CatalogPages.Proofs.Text.LinesAndWords
import CatalogPages.Proofs.Text.Search
import Mathlib.Data.List.Infix

namespace CatalogPages.Text

/-- The bytes of some characters. -/
def encoded (text : List Char) : List UInt8 :=
  text.flatMap String.utf8EncodeChar

/-- How many bytes some characters have. -/
def size (text : List Char) : Nat :=
  (encoded text).length

theorem bytes_eq_encoded (text : String) : bytes text = encoded text.toList :=
  bytes_eq_flatMap text

@[simp] theorem encoded_nil : encoded [] = [] := rfl

@[simp] theorem encoded_cons (c : Char) (text : List Char) :
    encoded (c :: text) = String.utf8EncodeChar c ++ encoded text := rfl

@[simp] theorem encoded_append (first second : List Char) :
    encoded (first ++ second) = encoded first ++ encoded second :=
  List.flatMap_append

@[simp] theorem size_append (first second : List Char) :
    size (first ++ second) = size first + size second := by
  simp [size]

theorem size_toList (text : String) : size text.toList = text.utf8ByteSize := by
  rw [size, ← bytes_eq_encoded, bytes, String.toUTF8_eq_toByteArray, ← String.size_toByteArray]
  rfl

/-! ### The first occurrence -/

/-- The place where some bytes occur first in others. -/
def place? (find bytes : List UInt8) : Option Nat :=
  bytes.tails.findIdx? find.isPrefixOf

theorem place?_eq_some_iff {find bytes : List UInt8} {place : Nat} :
    place? find bytes = some place ↔ place ≤ bytes.length ∧ find <+: bytes.drop place ∧
      ∀ earlier < place, ¬ find <+: bytes.drop earlier := by
  simp only [place?, List.findIdx?_eq_some_iff_getElem, List.getElem_tails, List.length_tails,
    List.isPrefixOf_iff_prefix, exists_prop, Nat.lt_succ_iff]

theorem place?_eq_none_iff {find bytes : List UInt8} :
    place? find bytes = none ↔ ∀ place ≤ bytes.length, ¬ find <+: bytes.drop place := by
  simp only [place?, List.findIdx?_eq_none_iff, List.mem_iff_getElem, List.length_tails,
    Nat.lt_succ_iff]
  constructor
  · intro missing place inside starts
    have occurs := missing _ ⟨place, inside, rfl⟩
    rw [List.getElem_tails, ← Bool.not_eq_true, List.isPrefixOf_iff_prefix] at occurs
    exact occurs starts
  · rintro missing _ ⟨place, inside, rfl⟩
    rw [List.getElem_tails, ← Bool.not_eq_true, List.isPrefixOf_iff_prefix]
    exact missing place inside

/-- Bytes that start with those of a text are those of a text that starts with it. -/
theorem prefix_of_encoded_prefix {find text : List Char} (starts : encoded find <+: encoded text) :
    find <+: text := by
  obtain ⟨rest, same⟩ := starts
  refine List.isPrefix_of_utf8Encode_append_eq_utf8Encode rest.toByteArray ?_
  rw [List.utf8Encode, List.utf8Encode, ← List.toByteArray_append]
  exact congrArg _ same

/-- **The bytes of a text occur only where the text does**, since a byte inside a character cannot
be the first one of a character. -/
theorem exists_of_encoded_prefix_drop {c : Char} {find text : List Char} :
    ∀ {place : Nat}, encoded (c :: find) <+: (encoded text).drop place →
      ∃ front back, text = front ++ c :: find ++ back ∧ place = size front := by
  have first : 0 < (String.utf8EncodeChar c).length := by simp [c.utf8Size_pos]
  induction text with
  | nil =>
    intro place starts
    rw [encoded_nil, List.drop_nil, List.prefix_nil, encoded_cons, List.append_eq_nil_iff] at starts
    exact absurd starts.1 String.utf8EncodeChar_ne_nil
  | cons d text ih =>
    intro place starts
    by_cases inside : place < (String.utf8EncodeChar d).length
    · -- The byte at the place is the first one of `c`, and so it is the first one of `d`.
      have same := starts.getElem (i := 0) (by rw [encoded_cons, List.length_append]; omega)
      simp only [encoded_cons] at same
      rw [List.getElem_append_left first, List.getElem_drop, List.getElem_append_left (by omega)]
        at same
      have isFirst := UInt8.isUTF8FirstByte_getElem_zero_utf8EncodeChar (c := c)
      rw [same] at isFirst
      obtain rfl := UInt8.isUTF8FirstByte_getElem_utf8EncodeChar.mp isFirst
      obtain ⟨back, whole⟩ := prefix_of_encoded_prefix starts
      exact ⟨[], back, whole.symm, rfl⟩
    · have later : (encoded (d :: text)).drop place =
          (encoded text).drop (place - (String.utf8EncodeChar d).length) := by
        rw [encoded_cons, List.drop_append, List.drop_of_length_le (by omega), List.nil_append]
      rw [later] at starts
      obtain ⟨front, back, rfl, isPlace⟩ := ih starts
      refine ⟨d :: front, back, rfl, ?_⟩
      rw [size, encoded_cons, List.length_append, ← size, ← isPlace]
      omega

/-- The place of the bytes of a text in another is where the text occurs first. -/
theorem place?_encoded_of_firstAt {find text front back : List Char} (holds : find ≠ [])
    (first : FirstAt find text front back) :
    place? (encoded find) (encoded text) = some (size front) := by
  obtain ⟨c, find, rfl⟩ := List.exists_cons_of_ne_nil holds
  have whole : encoded text = encoded front ++ (encoded (c :: find) ++ encoded back) := by
    rw [first.occurs, encoded_append, encoded_append, List.append_assoc]
  refine place?_eq_some_iff.mpr ⟨?_, ?_, fun earlier before starts => ?_⟩
  · rw [whole, List.length_append]
    exact Nat.le_add_right ..
  · rw [whole, size, List.drop_left]
    exact List.prefix_append ..
  · obtain ⟨front', back', occurs, rfl⟩ := exists_of_encoded_prefix_drop starts
    have starts : front <+: text := by
      rw [first.occurs, List.append_assoc]
      exact List.prefix_append ..
    have starts' : front' <+: text := by
      rw [occurs, List.append_assoc]
      exact List.prefix_append ..
    obtain ⟨more, rfl⟩ :=
      List.prefix_of_prefix_length_le starts starts' (first.first _ _ occurs)
    rw [size_append] at before
    omega

/-- The bytes of a text that does not occur do not occur. -/
theorem place?_encoded_of_not_infix {find text : List Char} (missing : ¬ find <:+: text) :
    place? (encoded find) (encoded text) = none := by
  refine place?_eq_none_iff.mpr fun place _ starts => missing ?_
  cases find with
  | nil => exact List.nil_infix
  | cons c find =>
    obtain ⟨front, back, rfl, -⟩ := exists_of_encoded_prefix_drop starts
    exact ⟨front, back, rfl⟩

/-! ### Lines -/

/-- The byte of a line feed stands for nothing else. -/
theorem not_mem_utf8EncodeChar {c : Char} (other : c ≠ '\n') : 10 ∉ String.utf8EncodeChar c := by
  intro member
  obtain ⟨place, inside, isBreak⟩ := List.mem_iff_getElem.mp member
  have starts : encoded ['\n'] <+: (encoded [c]).drop place := by
    rw [encoded_cons (c := c), encoded_nil, List.append_nil, List.drop_eq_getElem_cons inside,
      isBreak]
    exact List.prefix_append [10] _
  obtain ⟨front, back, same, -⟩ := exists_of_encoded_prefix_drop starts
  have isChar : '\n' ∈ [c] := by
    rw [same]
    simp
  exact other (List.mem_singleton.mp isChar).symm

/-- The lines that have ended in a text, counted by its bytes. -/
theorem count_encoded (text : List Char) : (encoded text).count 10 = lineBreaks text := by
  unfold lineBreaks
  induction text with
  | nil => rfl
  | cons c text ih =>
    rw [encoded_cons, List.count_append, ih, List.count_cons]
    by_cases isBreak : c = '\n'
    · subst isBreak
      rw [beq_self_eq_true, if_pos rfl, Nat.add_comm]
      rfl
    · rw [List.count_eq_zero_of_not_mem (not_mem_utf8EncodeChar isBreak), beq_false_of_ne isBreak]
      simp

/-! ### Cuts -/

/-- Whether a character starts at a place, or the text ends there. -/
abbrev Boundary (text : String) (place : Nat) : Prop :=
  (⟨place⟩ : String.Pos.Raw).IsValid text

/-- What a text holds between two places, if it can be cut at both. -/
def slice? (text : String) (start stop : Nat) : Option (List Char) :=
  if valid : start ≤ stop ∧ Boundary text start ∧ Boundary text stop then
    some (text.extract (text.pos ⟨start⟩ valid.2.1) (text.pos ⟨stop⟩ valid.2.2)).toList
  else none

/-- A place is a boundary where a part of the text ends. -/
theorem boundary_iff {text : String} {place : Nat} :
    Boundary text place ↔ ∃ before after, text.toList = before ++ after ∧ place = size before := by
  rw [Boundary, String.Pos.Raw.isValid_iff_exists_append]
  constructor
  · rintro ⟨before, after, rfl, isPlace⟩
    refine ⟨before.toList, after.toList, String.toList_append, ?_⟩
    rw [size_toList]
    exact congrArg String.Pos.Raw.byteIdx isPlace
  · rintro ⟨before, after, whole, rfl⟩
    refine ⟨String.ofList before, String.ofList after, ?_, ?_⟩
    · rw [← String.ofList_append, ← whole, String.ofList_toList]
    · rw [String.Pos.Raw.ext_iff, String.byteIdx_rawEndPos, ← size_toList, String.toList_ofList]

/-- What stands between the ends of the first two of three parts is the second. -/
theorem extract_middle (front middle back : ByteArray) :
    (front ++ (middle ++ back)).extract front.size (front.size + middle.size) = middle := by
  have shifted := ByteArray.extract_append_size_add (a := front) (b := middle ++ back) (i := 0)
    (j := middle.size)
  rw [Nat.add_zero, ByteArray.extract_append_eq_left rfl] at shifted
  exact shifted

/-- A text can be cut before and after a part of it. -/
theorem slice?_append {text : String} {before part after : List Char}
    (whole : text.toList = before ++ part ++ after) :
    slice? text (size before) (size (before ++ part)) = some part := by
  have start : Boundary text (size before) :=
    boundary_iff.mpr ⟨before, part ++ after, by rw [whole, List.append_assoc], rfl⟩
  have stop : Boundary text (size (before ++ part)) :=
    boundary_iff.mpr ⟨before ++ part, after, whole, rfl⟩
  have le : size before ≤ size (before ++ part) := by
    rw [size_append]
    exact Nat.le_add_right ..
  have isSize (chars : List Char) : size chars = (String.ofList chars).toByteArray.size := by
    rw [String.size_toByteArray, ← size_toList, String.toList_ofList]
  have isBytes : text.toByteArray = (String.ofList before).toByteArray ++
      ((String.ofList part).toByteArray ++ (String.ofList after).toByteArray) := by
    rw [← String.toByteArray_append, ← String.toByteArray_append, ← String.ofList_append,
      ← String.ofList_append, ← List.append_assoc, ← whole, String.ofList_toList]
  have isPart : text.extract (text.pos ⟨size before⟩ start)
      (text.pos ⟨size (before ++ part)⟩ stop) = String.ofList part := by
    rw [← String.toByteArray_inj, String.toByteArray_extract, String.offset_pos, String.offset_pos]
    calc text.toByteArray.extract (size before) (size (before ++ part))
        = text.toByteArray.extract (String.ofList before).toByteArray.size
            ((String.ofList before).toByteArray.size + (String.ofList part).toByteArray.size) := by
          rw [size_append, isSize, isSize]
      _ = (String.ofList part).toByteArray := by
          rw [isBytes]
          exact extract_middle ..
  rw [slice?, dif_pos ⟨le, start, stop⟩, isPart, String.toList_ofList]

/-! ### What is read at a place -/

/-- The bytes of a text from a place on, if the text has so many. -/
def bytesFrom? (text : String) (place : Nat) : Option (List UInt8) :=
  if place ≤ text.utf8ByteSize then some ((bytes text).drop place) else none

/-- The line of a text on which a place stands, if the text has so many bytes. -/
def lineAt? (text : String) (place : Nat) : Option Nat :=
  if place ≤ text.utf8ByteSize then some (1 + ((bytes text).take place).count 10) else none

/-- The place after a line break at a place, or this place where there is none. -/
def afterLineBreak? (text : String) (place : Nat) : Option Nat := do
  match ← slice? text place text.utf8ByteSize with
  | '\r' :: '\n' :: _ => some (place + 2)
  | '\n' :: _ => some (place + 1)
  | _ => some place

section Reads

variable {text : String} {before rest : List Char} (whole : text.toList = before ++ rest)

include whole

theorem size_le : size before ≤ text.utf8ByteSize := by
  rw [← size_toList, whole, size_append]
  exact Nat.le_add_right ..

theorem bytesFrom?_append : bytesFrom? text (size before) = some (encoded rest) := by
  rw [bytesFrom?, if_pos (size_le whole), bytes_eq_encoded, whole, encoded_append, size,
    List.drop_left]

theorem lineAt?_append : lineAt? text (size before) = some (1 + lineBreaks before) := by
  rw [lineAt?, if_pos (size_le whole), bytes_eq_encoded, whole, encoded_append, size,
    List.take_left, count_encoded]

theorem slice?_rest : slice? text (size before) text.utf8ByteSize = some rest := by
  have cut : slice? text (size before) (size (before ++ rest)) = some rest :=
    slice?_append (whole.trans (List.append_nil _).symm)
  rwa [← whole, size_toList] at cut

theorem afterLineBreak?_append :
    afterLineBreak? text (size before) = some (size (before ++ lineBreak rest)) := by
  rw [afterLineBreak?, slice?_rest whole, Option.bind_eq_bind, Option.bind_some, size_append]
  split
  · rfl
  · rfl
  · next noReturn noFeed =>
    rw [lineBreak.eq_3 rest noReturn noFeed]
    rfl

end Reads

end CatalogPages.Text
