/-
**What a reader takes from a text.**

A reader that takes a text, whatever comes after it, gives one value for it and stops where the text
ends. Texts that are taken one after another are taken together.

* `Reads`: a reader takes a text and gives a value;
* `reads_text`: a text between quotes is taken as it was printed;
* `reads_items`, `reads_members`: what stands between brackets is taken one by one;
* `document_of_reads`: a whole text.
-/

import CatalogPages.Json.Printer
import CatalogPages.Json.Reader
import CatalogPages.Proofs.Success

namespace CatalogPages.Json

variable {α β σ : Type}

/-! ### Steps -/

/-- A reader takes a text and gives a value, whatever comes after the text. -/
def Reads (reader : Reader α) (text : List Char) (value : α) : Prop :=
  ∀ rest place steps, text.length + rest.length < steps →
    reader ⟨text ++ rest, place, steps⟩ = .ok (value, ⟨rest, place.afterAll text, steps⟩)

/-- A reader that comes first hands what it gives to the next. -/
theorem bind_of {first : Reader α} {next : α → Reader β} {cursor after : Cursor} {value : α}
    (goes : first cursor = .ok (value, after)) : (first >>= next) cursor = next value after := by
  show (first cursor >>= fun pair => next pair.1 pair.2) = _
  rw [goes]
  rfl

theorem get_bind (next : Cursor → Reader α) (cursor : Cursor) :
    (get >>= next) cursor = next cursor cursor := rfl

theorem map_of {reader : Reader α} (f : α → β) {cursor after : Cursor} {value : α}
    (goes : reader cursor = .ok (value, after)) :
    (f <$> reader) cursor = .ok (f value, after) := by
  show (reader cursor >>= fun pair => pure (f pair.1, pair.2)) = _
  rw [goes]
  rfl

@[simp] theorem afterAll_nil (place : Place) : place.afterAll [] = place := rfl

@[simp] theorem afterAll_cons (place : Place) (c : Char) (text : List Char) :
    place.afterAll (c :: text) = (place.after c).afterAll text := rfl

@[simp] theorem afterAll_append (place : Place) (first second : List Char) :
    place.afterAll (first ++ second) = (place.afterAll first).afterAll second :=
  List.foldl_append

section Cursors

variable (c : Char) (rest : List Char) (place : Place) (steps : Nat)

theorem peek_cons : peek ⟨c :: rest, place, steps⟩ = .ok (some c, ⟨c :: rest, place, steps⟩) := rfl

theorem pass_cons : pass 1 ⟨c :: rest, place, steps⟩ = .ok ((), ⟨rest, place.after c, steps⟩) := rfl

/-- Passing over a gap stays where there is none. -/
theorem passGap_cons {c : Char} (solid : isGap c = false) :
    Cursor.passGap ⟨c :: rest, place, steps⟩ = ⟨c :: rest, place, steps⟩ := by
  rw [Cursor.passGap, List.takeWhile_cons_of_neg (by simp [solid])]
  rfl

theorem gap_cons {c : Char} (solid : isGap c = false) :
    gap ⟨c :: rest, place, steps⟩ = .ok (some c, ⟨c :: rest, place, steps⟩) := by
  have stays : takeWhile isGap ⟨c :: rest, place, steps⟩ = .ok ([], ⟨c :: rest, place, steps⟩) := by
    show Except.ok (List.takeWhile isGap (c :: rest), _) = _
    rw [List.takeWhile_cons_of_neg (by simp [solid])]
    rfl
  rw [gap, bind_of stays]
  exact peek_cons ..

theorem gap_nil : gap ⟨[], place, steps⟩ = .ok (none, ⟨[], place, steps⟩) := rfl

end Cursors

namespace Reads

/-- Texts that are taken one after the other are taken together. -/
theorem bind {first : Reader α} {next : α → Reader β} {text more : List Char} {value : α}
    {result : β} (reads : Reads first text value) (reads' : Reads (next value) more result) :
    Reads (first >>= next) (text ++ more) result := by
  intro rest place steps enough
  rw [List.length_append] at enough
  rw [List.append_assoc, bind_of (reads (more ++ rest) place steps (by simpa using by omega)),
    reads' rest _ steps (by omega), afterAll_append]

theorem pure (value : α) : Reads (pure value) [] value :=
  fun _ _ _ _ => rfl

/-- What comes last may take nothing. -/
theorem last {first : Reader α} {next : α → Reader β} {text : List Char} {value : α} {result : β}
    (reads : Reads first text value) (reads' : Reads (next value) [] result) :
    Reads (first >>= next) text result := by
  have both := reads.bind reads'
  rwa [List.append_nil] at both

theorem map {reader : Reader α} {text : List Char} {value : α} (f : α → β)
    (reads : Reads reader text value) : Reads (f <$> reader) text (f value) :=
  fun rest place steps enough => map_of f (reads rest place steps enough)

/-- A character that is passed over is taken. -/
theorem pass {next : Unit → Reader α} {c : Char} {text : List Char} {value : α}
    (reads : Reads (next ()) text value) : Reads (pass 1 >>= next) (c :: text) value := by
  intro rest place steps enough
  rw [List.length_cons] at enough
  exact reads rest (place.after c) steps (by omega)

/-- A character that is looked at stays. -/
theorem peek {next : Option Char → Reader α} {c : Char} {text : List Char} {value : α}
    (reads : Reads (next (some c)) (c :: text) value) :
    Reads (peek >>= next) (c :: text) value :=
  fun rest place steps enough => reads rest place steps enough

/-- So does one that is looked at after a gap, where there is none. -/
theorem gap {next : Option Char → Reader α} {c : Char} {text : List Char} {value : α}
    (solid : isGap c = false) (reads : Reads (next (some c)) (c :: text) value) :
    Reads (gap >>= next) (c :: text) value := by
  intro rest place steps enough
  rw [List.cons_append, bind_of (gap_cons _ place steps solid)]
  exact reads rest place steps enough

/-- There are more steps than the text has characters. -/
theorem steps {next : Nat → Reader α} {text : List Char} {value : α}
    (reads : ∀ steps, text.length < steps → Reads (next steps) text value) :
    Reads (do next (← get).steps) text value :=
  fun rest place steps enough => reads steps (by omega) rest place steps enough

end Reads

/-- The letters of a word are taken one by one. -/
theorem reads_letters (word : List Char) : Reads (letters word) word () := by
  induction word with
  | nil => exact Reads.pure ()
  | cons c word ih =>
    refine .peek ?_
    dsimp only
    rw [if_pos rfl]
    exact .pass ih

/-! ### Texts between quotes -/

/-- Control characters are printed by four digits that give their number. -/
theorem hexDigits_spec {c : Char} (control : c < ' ') :
    (hexDigits c).length = 4 ∧ byteCount (hexDigits c) = 4 ∧
      hexNumber? (hexDigits c) = some c.toNat := by
  have all : ∀ n < 32, (hexDigits (Char.ofNat n)).length = 4 ∧
      byteCount (hexDigits (Char.ofNat n)) = 4 ∧
      hexNumber? (hexDigits (Char.ofNat n)) = some n := by
    decide
  have small : c.toNat < 32 := control
  have digits := all c.toNat small
  rwa [Char.ofNat_toNat] at digits

theorem reads_hexEscape {c : Char} (control : c < ' ') :
    Reads hexEscape (hexDigits c) c.toNat := by
  obtain ⟨length, bytes, number⟩ := hexDigits_spec control
  intro rest place steps _
  have four : (hexDigits c ++ rest).take 4 = hexDigits c := by
    rw [← length, List.take_left]
  have after : (hexDigits c ++ rest).drop 4 = rest := by
    rw [← length, List.drop_left]
  have passes : pass 4 ⟨hexDigits c ++ rest, place, steps⟩ =
      .ok ((), ⟨rest, place.afterAll (hexDigits c), steps⟩) := by
    show Except.ok ((), Cursor.pass _ _) = _
    rw [Cursor.pass, four, after]
  rw [hexEscape, get_bind]
  dsimp only
  rw [four, bytes, if_neg (Nat.lt_irrefl 4), number]
  exact bind_of passes

/-- Whether a character between quotes is given by its number. -/
def IsNumbered (c : Char) : Prop :=
  c < ' ' ∧ c ∉ ['\x08', '\t', '\n', '\x0c', '\r']

instance (c : Char) : Decidable (IsNumbered c) :=
  inferInstanceAs (Decidable (_ ∧ _))

/-- How a character is printed between quotes. -/
inductive Escapes (c : Char) : List Char → Prop
  | letter {letter : Char} (other : letter ≠ 'u') (stands : letterEscapes.lookup letter = some c)
      (unnumbered : ¬ IsNumbered c) : Escapes c ['\\', letter]
  | number (numbered : IsNumbered c) : Escapes c ('\\' :: 'u' :: hexDigits c)
  | plain (notQuote : c ≠ '"') (notBackslash : c ≠ '\\') (visible : ¬ c < ' ') : Escapes c [c]

theorem escapes_escapeChar (c : Char) : Escapes c (escapeChar c) := by
  unfold escapeChar
  -- Seven characters have a letter of their own.
  iterate 7
    split
    · next same =>
      rw [same]
      exact .letter (by decide) rfl (by decide)
  split
  · next control => exact .number ⟨control, by simp [*]⟩
  · next visible => exact .plain ‹_› ‹_› visible

/-- A character between quotes, if one that is given by its number is called by a name. -/
def heard (named : Char → Char) (c : Char) : Char :=
  if IsNumbered c then named c else c

/-- A letter after a backslash stands for a character. -/
theorem reads_escaped_letter (byNumber : Reader Char) {letter plain : Char}
    (other : letter ≠ 'u') (stands : letterEscapes.lookup letter = some plain) :
    Reads (escaped byNumber) [letter] plain := by
  refine .peek ?_
  split
  · next missing => cases missing
  · next isNumber => exact absurd (Option.some.inj isNumber) other
  · next c _ same =>
    obtain rfl := Option.some.inj same
    rw [stands]
    exact .pass (.pure plain)

section Texts

variable {byNumber : Reader Char} {control : Reader Unit} {named : Char → Char}

/-- What follows a backslash is one character of the text. -/
theorem textSteps_backslash {steps : Nat} {backwards escape text : List Char} {c : Char}
    {result : String} (reads : Reads (escaped byNumber) escape c)
    (later : Reads (textSteps byNumber control steps (c :: backwards)) text result) :
    Reads (textSteps byNumber control (steps + 1) backwards) ('\\' :: (escape ++ text)) result :=
  .peek (.pass (reads.bind later))

/-- One printed character is read in one step. -/
theorem textSteps_escapeChar
    (numbers : ∀ c, c < ' ' → Reads byNumber (hexDigits c) (named c)) (c : Char)
    {steps : Nat} {backwards text : List Char} {result : String}
    (later : Reads (textSteps byNumber control steps (heard named c :: backwards)) text result) :
    Reads (textSteps byNumber control (steps + 1) backwards) (escapeChar c ++ text) result := by
  have printed := escapes_escapeChar c
  generalize escapeChar c = printing at printed
  cases printed with
  | letter other stands unnumbered =>
    rw [heard, if_neg unnumbered] at later
    exact textSteps_backslash (reads_escaped_letter byNumber other stands) later
  | number numbered =>
    rw [heard, if_pos numbered] at later
    have reads : Reads (escaped byNumber) ('u' :: hexDigits c) (named c) :=
      .peek (.pass (numbers c numbered.1))
    exact textSteps_backslash reads later
  | plain notQuote notBackslash visible =>
    rw [heard, if_neg fun numbered => visible numbered.1] at later
    refine .peek ?_
    split
    · next missing => cases missing
    · next isQuote => exact absurd (Option.some.inj isQuote) notQuote
    · next isBackslash => exact absurd (Option.some.inj isBackslash) notBackslash
    · next same =>
      obtain rfl := Option.some.inj same
      rw [if_neg visible]
      exact .pass later

/-- **A printed text is read to its closing quote.** -/
theorem reads_textSteps
    (numbers : ∀ c, c < ' ' → Reads byNumber (hexDigits c) (named c)) (text : List Char) :
    ∀ {steps : Nat} {backwards : List Char}, text.length < steps →
      Reads (textSteps byNumber control steps backwards) (text.flatMap escapeChar ++ ['"'])
        (String.ofList (backwards.reverse ++ text.map (heard named))) := by
  induction text with
  | nil =>
    intro steps backwards enough
    obtain ⟨steps, rfl⟩ := Nat.exists_eq_succ_of_ne_zero (Nat.ne_of_gt enough)
    rw [List.map_nil, List.append_nil]
    exact .peek (.pass (.pure _))
  | cons c text ih =>
    intro steps backwards enough
    rw [List.length_cons] at enough
    obtain ⟨steps, rfl⟩ := Nat.exists_eq_succ_of_ne_zero (Nat.ne_of_gt (Nat.zero_lt_of_lt enough))
    have later := @ih steps (heard named c :: backwards) (by omega)
    rw [List.flatMap_cons, List.append_assoc]
    rw [List.reverse_cons, List.append_assoc, List.singleton_append] at later
    exact textSteps_escapeChar numbers c later

end Texts

/-- A printed character takes at least one place. -/
theorem length_le_flatMap_escapeChar (text : List Char) :
    text.length ≤ (text.flatMap escapeChar).length := by
  induction text with
  | nil => exact Nat.le_refl _
  | cons c text ih =>
    have printed := escapes_escapeChar c
    have size : 1 ≤ (escapeChar c).length := by
      generalize escapeChar c = printing at printed
      cases printed with
      | letter | number | plain => simp
    rw [List.flatMap_cons, List.length_append, List.length_cons]
    omega

theorem reads_escapedByNumber {c : Char} (control : c < ' ') :
    Reads escapedByNumber (hexDigits c) c := by
  have small : c.toNat < 32 := control
  refine .last (reads_hexEscape control) ?_
  rw [if_neg (by omega), if_pos (by omega), Char.ofNat_toNat]
  exact .pure c

theorem enough_of_printed {text : String} {steps : Nat}
    (enough : (text.toList.flatMap escapeChar ++ ['"']).length < steps) :
    text.toList.length < steps := by
  have shorter := length_le_flatMap_escapeChar text.toList
  rw [List.length_append] at enough
  omega

theorem map_heard_id (text : List Char) : text.map (heard id) = text := by
  have same : ∀ c, heard id c = c := fun c => ite_self c
  rw [List.map_congr_left fun c _ => same c, List.map_id']

/-- **A text between quotes is read as it was printed.** -/
theorem reads_text (text : String) :
    Reads textAfterQuote (text.toList.flatMap escapeChar ++ ['"']) text := by
  refine @Reads.steps _ (fun steps => textSteps escapedByNumber (failNext .controlCharacter) steps
    []) _ _ fun steps enough => ?_
  have reads := @reads_textSteps _ (failNext .controlCharacter) id
    (fun c control => reads_escapedByNumber control) text.toList steps [] (enough_of_printed enough)
  rwa [map_heard_id, List.reverse_nil, List.nil_append, String.ofList_toList] at reads

/-- A text between quotes is passed over. -/
theorem reads_skipText (text : String) :
    Reads skipText (text.toList.flatMap escapeChar ++ ['"']) () := by
  have blank (c : Char) (control : c < ' ') :
      Reads (do let _ ← hexEscape; return ' ') (hexDigits c) ' ' :=
    .last (reads_hexEscape control) (.pure ' ')
  refine @Reads.steps _ (fun steps => textSteps (do let _ ← hexEscape; return ' ')
    (failHere .controlCharacter) steps [] >>= fun _ => pure ()) _ _ fun steps enough => ?_
  exact .last (reads_textSteps blank text.toList (enough_of_printed enough)) (.pure ())

/-! ### Between brackets -/

/-- A reader takes a text up to a character that closes it, which stays. -/
def ReadsUpTo (mark : Char) (reader : Reader α) (text : List Char) (value : α) : Prop :=
  ∀ rest place steps, text.length + rest.length + 1 < steps →
    reader ⟨text ++ mark :: rest, place, steps⟩ =
      .ok (value, ⟨mark :: rest, place.afterAll text, steps⟩)

theorem ReadsUpTo.map {mark : Char} {reader : Reader α} {text : List Char} {value : α}
    (f : α → β) (reads : ReadsUpTo mark reader text value) :
    ReadsUpTo mark (f <$> reader) text (f value) :=
  fun rest place steps enough => map_of f (reads rest place steps enough)

theorem ReadsUpTo.last {mark : Char} {first : Reader α} {next : α → Reader β} {text : List Char}
    {value : α} {result : β} (reads : ReadsUpTo mark first text value)
    (reads' : Reads (next value) [] result) : ReadsUpTo mark (first >>= next) text result := by
  intro rest place steps enough
  rw [bind_of (reads rest place steps enough)]
  exact reads' (mark :: rest) _ steps (by simp only [List.length_nil, List.length_cons]; omega)

/-- What is read up to its end is closed there. -/
theorem ReadsUpTo.enclosed {mark : Char} {inside : Reader α} {close : Cursor → Closing}
    {text : List Char} {value : α} (reads : ReadsUpTo mark inside text value)
    (closes : ∀ rest place steps,
      close ⟨mark :: rest, place, steps⟩ = ⟨⟨rest, place.after mark, steps⟩, none⟩) :
    Reads (enclosed inside close) (text ++ [mark]) value := by
  intro rest place steps enough
  have inner := reads rest place steps (by simpa [Nat.add_right_comm] using enough)
  rw [List.append_assoc, List.singleton_append, Json.enclosed, inner]
  dsimp only
  rw [closes, afterAll_append]
  rfl

theorem closeList_cons (rest : List Char) (place : Place) (steps : Nat) :
    closeList ⟨']' :: rest, place, steps⟩ = ⟨⟨rest, place.after ']', steps⟩, none⟩ := by
  rw [closeList, passGap_cons rest place steps rfl]
  rfl

theorem closeObject_cons (rest : List Char) (place : Place) (steps : Nat) :
    closeObject ⟨'\x7d' :: rest, place, steps⟩ = ⟨⟨rest, place.after '\x7d', steps⟩, none⟩ := by
  rw [closeObject, passGap_cons rest place steps rfl]
  rfl

/-- A text that can stand first in a list. -/
def Starts (text : List Char) : Prop :=
  ∃ c more, text = c :: more ∧ isGap c = false ∧ c ≠ ']'

section Items

variable (rest : List Char) (place : Place) (steps : Nat)

theorem nextItem_close (first : Bool) :
    nextItem first ⟨']' :: rest, place, steps⟩ = .ok (false, ⟨']' :: rest, place, steps⟩) := by
  rw [nextItem, bind_of (gap_cons rest place steps rfl)]
  rfl

theorem nextItem_first {c : Char} (solid : isGap c = false) (opens : c ≠ ']') :
    nextItem true ⟨c :: rest, place, steps⟩ = .ok (true, ⟨c :: rest, place, steps⟩) := by
  rw [nextItem, bind_of (gap_cons rest place steps solid)]
  simp only [if_true]
  rfl

theorem nextItem_later {c : Char} (solid : isGap c = false) (opens : c ≠ ']') :
    nextItem false ⟨',' :: c :: rest, place, steps⟩ =
      .ok (true, ⟨c :: rest, place.after ',', steps⟩) := by
  rw [nextItem, bind_of (gap_cons (c :: rest) place steps rfl)]
  refine (bind_of (pass_cons ',' (c :: rest) place steps)).trans
    ((bind_of (gap_cons rest (place.after ',') steps solid)).trans ?_)
  simp only
  rfl

end Items

theorem separated_cons (text : List Char) (texts : List (List Char)) :
    separated (text :: texts) = text ++ texts.flatMap (',' :: ·) := by
  induction texts generalizing text with
  | nil => exact (List.append_nil _).symm
  | cons other texts ih => exact congrArg (fun later => text ++ ',' :: later) (ih other)

/-- There are no more texts than places for their commas. -/
theorem length_le_flatMap_comma (texts : List (List Char)) :
    texts.length ≤ (texts.flatMap (',' :: ·)).length := by
  induction texts with
  | nil => exact Nat.le_refl _
  | cons text texts ih =>
    rw [List.flatMap_cons, List.length_append, List.length_cons, List.length_cons]
    omega

theorem exists_succ {count steps : Nat} (enough : count < steps) : ∃ fewer, steps = fewer + 1 :=
  Nat.exists_eq_succ_of_ne_zero (Nat.ne_of_gt (Nat.zero_lt_of_lt enough))

/-- Items are read one by one, each after a comma. -/
theorem itemSteps_later {item : Reader α} {values : List α} {texts : List (List Char)}
    (each : List.Forall₂ (fun value text => Reads item text value ∧ Starts text) values texts) :
    ∀ {steps : Nat}, texts.length < steps →
      ReadsUpTo ']' (itemSteps item steps false) (texts.flatMap (',' :: ·)) values := by
  induction each with
  | nil =>
    intro steps enough rest place total _
    obtain ⟨steps, rfl⟩ := exists_succ enough
    exact bind_of (nextItem_close rest place total false)
  | @cons value text values texts here _ ih =>
    intro steps enough rest place total room
    obtain ⟨steps, rfl⟩ := exists_succ enough
    obtain ⟨reads, c, more, rfl, solid, opens⟩ := here
    rw [List.length_cons] at enough
    simp only [List.flatMap_cons, List.length_cons, List.length_append] at room
    have first := reads (texts.flatMap (',' :: ·) ++ ']' :: rest) (place.after ',') total (by
      simp only [List.length_cons, List.length_append]
      omega)
    have others := @ih steps (by omega) rest ((place.after ',').afterAll (c :: more)) total
      (by omega)
    rw [List.flatMap_cons, List.append_assoc]
    refine (bind_of (nextItem_later _ place total solid opens)).trans ?_
    refine (bind_of first).trans ((bind_of others).trans ?_)
    rw [afterAll_append]
    rfl

/-- **Items between commas are read one by one**, up to the bracket that closes them. -/
theorem reads_items {item : Reader α} {values : List α} {texts : List (List Char)}
    (each : List.Forall₂ (fun value text => Reads item text value ∧ Starts text) values texts) :
    ReadsUpTo ']' (items item) (separated texts) values := by
  intro rest place total room
  rw [items, get_bind]
  obtain ⟨steps, rfl⟩ := exists_succ room
  cases each with
  | nil => exact bind_of (nextItem_close rest place _ true)
  | @cons value text values texts here later =>
    obtain ⟨reads, c, more, rfl, solid, opens⟩ := here
    simp only [separated_cons, List.length_append, List.length_cons] at room
    have few := length_le_flatMap_comma texts
    have first := reads (texts.flatMap (',' :: ·) ++ ']' :: rest) place (steps + 1) (by
      simp only [List.length_cons, List.length_append]
      omega)
    have others := @itemSteps_later _ _ _ _ later steps (by omega) rest
      (place.afterAll (c :: more)) (steps + 1) (by omega)
    rw [separated_cons, List.append_assoc]
    refine (bind_of (nextItem_first _ place _ solid opens)).trans ?_
    refine (bind_of first).trans ((bind_of others).trans ?_)
    rw [afterAll_append]
    rfl

theorem nextKey_close (first : Bool) (rest : List Char) (place : Place) (steps : Nat) :
    nextKey first ⟨'\x7d' :: rest, place, steps⟩ =
      .ok (none, ⟨'\x7d' :: rest, place, steps⟩) := by
  rw [nextKey, bind_of (gap_cons rest place steps rfl)]
  rfl

theorem reads_key (key : String) : Reads (nextKey.key '"') (printText key) (some key) :=
  .pass (.last (reads_text key) (.pure _))

theorem reads_nextKey_first (key : String) : Reads (nextKey true) (printText key) (some key) :=
  .gap rfl (reads_key key)

theorem reads_nextKey_later (key : String) :
    Reads (nextKey false) (',' :: printText key) (some key) :=
  .gap rfl (.pass (.gap rfl (reads_key key)))

theorem reads_colon : Reads colon [':'] () :=
  .gap rfl (.pass (.pure ()))

/-- What a reader takes of one member of an object, after its key. -/
def ReadsMember (member : String → σ → Reader σ) (pair : String × Json) : σ → σ → Prop :=
  fun state next => Reads (member pair.1 state) (':' :: pair.2.print) next

theorem length_printMembers (pairs : List (String × Json)) :
    (printMembers pairs).length = pairs.length := by
  induction pairs with
  | nil => rfl
  | cons pair pairs ih => exact congrArg (· + 1) ih

section Members

variable {member : String → σ → Reader σ} {pairs : List (String × Json)} {state last : σ}

/-- One member is read, and the others are read from the state that it leaves. -/
theorem memberSteps_cons {first : Bool} {start text : List Char} {key : String} {next : σ}
    (reads : Reads (nextKey first) start (some key))
    (here : Reads (member key state) (':' :: text) next) (steps : Nat) (rest : List Char)
    (place : Place) (total : Nat) (room : start.length + text.length + 1 + rest.length < total) :
    memberSteps member (steps + 1) first state ⟨start ++ ':' :: (text ++ rest), place, total⟩ =
      memberSteps member steps false next
        ⟨rest, place.afterAll (start ++ ':' :: text), total⟩ := by
  have named := reads (':' :: (text ++ rest)) place total (by
    simp only [List.length_cons, List.length_append]
    omega)
  have changed := here rest (place.afterAll start) total (by
    rw [List.length_cons]
    omega)
  rw [afterAll_append]
  exact (bind_of named).trans (bind_of changed)

/-- Members are read one by one, each after a comma. -/
theorem memberSteps_later (each : Leads (ReadsMember member) pairs state last) :
    ∀ {steps : Nat}, pairs.length < steps →
      ReadsUpTo '\x7d' (memberSteps member steps false state)
        ((printMembers pairs).flatMap (',' :: ·)) last := by
  induction each with
  | nil state =>
    intro steps enough rest place total _
    obtain ⟨steps, rfl⟩ := exists_succ enough
    exact bind_of (nextKey_close false rest place total)
  | @cons pair pairs state next last here _ ih =>
    obtain ⟨key, document⟩ := pair
    intro steps enough rest place total room
    obtain ⟨steps, rfl⟩ := exists_succ enough
    rw [List.length_cons] at enough
    simp only [printMembers, List.flatMap_cons, List.length_append, List.length_cons] at room
    have others := @ih steps (by omega) rest
      (place.afterAll ((',' :: printText key) ++ ':' :: document.print)) total (by omega)
    have one := memberSteps_cons (reads_nextKey_later key) here steps
      ((printMembers pairs).flatMap (',' :: ·) ++ '\x7d' :: rest) place total (by
        simp only [List.length_append, List.length_cons]
        omega)
    simp only [printMembers, List.flatMap_cons, List.append_assoc, List.cons_append]
      at one others ⊢
    rw [one, others]
    simp

/-- **Members between commas are read one by one**, up to the bracket that closes them. -/
theorem reads_members (each : Leads (ReadsMember member) pairs state last) :
    ReadsUpTo '\x7d' (members member state) (separated (printMembers pairs)) last := by
  intro rest place total room
  rw [members, get_bind]
  obtain ⟨steps, rfl⟩ := exists_succ room
  cases each with
  | nil => exact bind_of (nextKey_close true rest place _)
  | @cons pair pairs _ next _ here later =>
    obtain ⟨key, document⟩ := pair
    simp only [printMembers, separated_cons, List.length_append, List.length_cons] at room
    have few := length_le_flatMap_comma (printMembers pairs)
    rw [length_printMembers] at few
    have others := memberSteps_later later (by omega : pairs.length < steps) rest
      (place.afterAll (printText key ++ ':' :: document.print)) (steps + 1) (by omega)
    have one := memberSteps_cons (reads_nextKey_first key) here steps
      ((printMembers pairs).flatMap (',' :: ·) ++ '\x7d' :: rest) place (steps + 1) (by
        simp only [List.length_append, List.length_cons]
        omega)
    simp only [printMembers, separated_cons, List.append_assoc, List.cons_append] at one others ⊢
    rw [one, others]
    simp

end Members

/-! ### Whole texts -/

/-- **A text that a reader takes to its end is a document.** -/
theorem document_of_reads {reader : Reader α} {text : List Char} {value : α}
    (reads : Reads reader text value) : document reader (String.ofList text) = .ok value := by
  have whole := reads [] ⟨1, 0⟩ (text.length + 1) (by simp)
  rw [List.append_nil] at whole
  have start : Cursor.start (String.ofList text) = ⟨text, ⟨1, 0⟩, text.length + 1⟩ := by
    simp [Cursor.start]
  unfold document
  dsimp only
  rw [start, bind_of whole, bind_of (gap_nil _ _)]
  rfl

end CatalogPages.Json
