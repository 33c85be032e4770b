/-
**What a document stands for.**

A document stands for a value of a schema when it is decoded to the value, and when its text is read
as the value. An object stands for a record when its members give the record's fields, in whatever
order they come; what no field asks for is passed over.

* `reads_value_text`, `reads_value_list`, `reads_value_object`: texts that are read as documents;
* `Stands`: a document and its text give the same value of a schema;
* `Sets`: what one member does to the fields that have been found;
* `Gives`, `stands_record`: what all members come to.
-/

import CatalogPages.Proofs.Json.Reading
import CatalogPages.Schema.OfText
import Mathlib.Data.List.Nodup

namespace CatalogPages.Json

variable {α β : Type}

/-- What looks at a character and keeps it makes no difference to what is taken. -/
theorem Reads.look {first : Reader α} {next : α → Reader β} {c : Char} {text : List Char}
    {value : α} {result : β}
    (sees : ∀ rest place steps,
      first ⟨c :: rest, place, steps⟩ = .ok (value, ⟨c :: rest, place, steps⟩))
    (reads : Reads (next value) (c :: text) result) :
    Reads (first >>= next) (c :: text) result := by
  intro rest place steps enough
  rw [List.cons_append, bind_of (sees _ place steps)]
  exact reads rest place steps enough

/-- What starts with a bracket that may be opened goes on behind it. -/
theorem reads_deeper {depth : Nat} {inside : Reader α} {c : Char} {text : List Char} {value : α}
    (deep : 1 < depth) (reads : Reads inside text value) :
    Reads (deeper depth inside) (c :: text) value := by
  unfold deeper
  rw [if_neg (by omega)]
  exact .pass reads

theorem starts_printText (text : String) : Starts (printText text) :=
  ⟨'"', _, rfl, rfl, by decide⟩

theorem printItems_strings (texts : List String) :
    printItems (texts.map string) = texts.map printText := by
  induction texts with
  | nil => rfl
  | cons text texts ih => exact congrArg (printText text :: ·) ih

/-- Texts are items where one text is. -/
theorem forall₂_printText {item : Reader α} {f : String → α}
    (each : ∀ text, Reads item (printText text) (f text)) (texts : List String) :
    List.Forall₂ (fun value text => Reads item text value ∧ Starts text) (texts.map f)
      (texts.map printText) := by
  rw [List.forall₂_map_left_iff, List.forall₂_map_right_iff, List.forall₂_same]
  exact fun text _ => ⟨each text, starts_printText text⟩

/-! ### Documents -/

/-- A bracket is no value by itself. -/
theorem scalar?_bracket {c : Char} (opens : c = '[' ∨ c = '\x7b') (rest : List Char)
    (place : Place) (steps : Nat) :
    scalar? ⟨c :: rest, place, steps⟩ = .ok (none, ⟨c :: rest, place, steps⟩) := by
  rcases opens with rfl | rfl
  · rw [scalar?, bind_of (gap_cons rest place steps rfl)]
    rfl
  · rw [scalar?, bind_of (gap_cons rest place steps rfl)]
    rfl

theorem reads_value_text (depth : Nat) (text : String) :
    Reads (value (depth + 1)) (printText text) (.string text) := by
  have scalar : Reads scalar? (printText text) (some (.string text)) :=
    .gap rfl (.pass (.last (reads_text text) (.pure _)))
  exact .last scalar (.pure _)

theorem reads_value_optional (depth : Nat) (text : Option String) :
    Reads (value (depth + 1)) (Json.optional text).print (Json.optional text) := by
  cases text with
  | none =>
    have scalar : Reads scalar? ['n', 'u', 'l', 'l'] (some .null) :=
      .gap rfl (.pass (.last (reads_letters _) (.pure _)))
    exact .last scalar (.pure _)
  | some text => exact reads_value_text depth text

/-- A list of texts is read where two levels are left. -/
theorem reads_value_list (depth : Nat) (texts : List String) :
    Reads (value (depth + 2)) (strings texts).print (strings texts) := by
  have inside := (reads_items (forall₂_printText (reads_value_text depth) texts)).map array
  show Reads _ ('[' :: (separated (printItems (texts.map string)) ++ [']'])) _
  rw [printItems_strings]
  refine .look (scalar?_bracket (.inl rfl)) (.peek ?_)
  rw [if_pos rfl]
  exact reads_deeper (by omega) (inside.enclosed closeList_cons)

/-- Members are put under their keys one after another. -/
theorem leads_put {depth : Nat} {pairs : List (String × Json)}
    (each : ∀ pair ∈ pairs, Reads (value depth) pair.2.print pair.2) :
    ∀ entries : List (String × Json), Leads (ReadsMember (value.member (value depth))) pairs entries
      (pairs.foldl (fun entries pair => Keyed.put pair.1 pair.2 entries) entries) := by
  induction pairs with
  | nil => exact fun entries => .nil entries
  | cons pair pairs ih =>
    intro entries
    obtain ⟨here, later⟩ := List.forall_mem_cons.mp each
    exact .cons (reads_colon.bind (here.last (.pure _))) (ih later _)

/-- **An object is read with its members in key order**, whatever their order in the text. -/
theorem reads_value_object {depth : Nat} (deep : 0 < depth) {pairs : List (String × Json)}
    (each : ∀ pair ∈ pairs, Reads (value depth) pair.2.print pair.2) :
    Reads (value (depth + 1)) (object pairs).print (ofMembers pairs) := by
  have inside := (reads_members (leads_put each [])).map object
  refine .look (scalar?_bracket (.inr rfl)) (.peek ?_)
  rw [if_neg (by decide)]
  exact reads_deeper (by omega) (inside.enclosed closeObject_cons)

theorem reads_skipValue (text : String) : Reads skipValue (printText text) () := by
  refine @Reads.steps _ skipSteps _ _ fun steps enough => ?_
  obtain ⟨fewer, rfl⟩ := exists_succ enough
  exact .gap rfl (.pass (reads_skipText text))

end CatalogPages.Json

namespace CatalogPages

open Json

variable {α β : Type}

/-! ### Values by a schema -/

/-- A document stands for a value of a schema, with so many levels left: it is decoded to the value,
and its text is read as the value. -/
structure Stands (depth : Nat) (schema : Schema α) (document : Json) (value : α) : Prop where
  decodes : schema.ofJson document = .ok value
  reads : Reads (schema.read depth) document.print value

namespace Stands

theorem reads_readText (expected text : String) :
    Reads (readText expected) (printText text) text := by
  refine .gap rfl ?_
  rw [if_pos rfl]
  exact .pass (reads_text text)

theorem text (depth : Nat) (text : String) : Stands depth .text (.string text) text where
  decodes := rfl
  reads := reads_readText _ text

theorem ofJson_strings (texts : List String) :
    (Schema.list .text).ofJson (strings texts) = .ok texts := by
  show (texts.map Json.string).mapM Schema.text.ofJson = _
  rw [mapM_ok_iff_forall₂, List.forall₂_map_left_iff, List.forall₂_same]
  exact fun _ _ => rfl

theorem list {depth : Nat} (deep : 1 < depth) (texts : List String) :
    Stands depth (.list .text) (strings texts) texts where
  decodes := ofJson_strings texts
  reads := by
    have inside := reads_items (forall₂_printText (reads_readText "a string") texts)
    rw [List.map_id'] at inside
    show Reads _ ('[' :: (separated (printItems (texts.map Json.string)) ++ [']'])) _
    rw [printItems_strings]
    refine .gap rfl ?_
    rw [if_pos rfl]
    exact reads_deeper deep (inside.enclosed closeList_cons)

theorem optional (depth : Nat) (text : Option String) :
    Stands depth (.optional .text) (Json.optional text) text := by
  cases text with
  | none =>
    refine ⟨rfl, .gap rfl ?_⟩
    rw [if_pos rfl]
    exact .pass (.last (reads_letters _) (.pure none))
  | some text =>
    refine ⟨rfl, .gap rfl ?_⟩
    rw [if_neg (by decide)]
    exact (reads_readText _ text).map some

theorem converted {depth : Nat} {inner : Schema α} {document : Json} {value : α}
    (stands : Stands depth inner document value) (convert : α → β) :
    Stands depth (.converted convert inner) document (convert value) where
  decodes := congrArg (Except.map convert) stands.decodes
  reads := stands.reads.map convert

/-- Of two kinds the text does not tell which it is, and so it is read as a document first. -/
theorem either {depth : Nat} {name : String} {first : Schema α} {second : Schema β}
    {document : Json} {found : α ⊕ β} (whole : Reads (value depth) document.print document)
    (decodes : (Schema.either name first second).ofJson document = .ok found) :
    Stands depth (.either name first second) document found where
  decodes := decodes
  reads := by
    refine whole.last ?_
    rw [decodes]
    exact .pure found

/-- What a whole text stands for. -/
theorem parse {schema : Schema α} {document : Json} {value : α}
    (stands : Stands depthLimit schema document value) :
    schema.parse document.toText = .ok value :=
  document_of_reads stands.reads

end Stands

/-! ### Members of a record -/

/-- The names of fields. -/
def Fields.names : Fields types → List String
  | .done => []
  | .field name _ _ rest => name :: rest.names

/-- A member sets the field of its key, which must not have been set. What no field asks for must be
a value that can be passed over. -/
inductive Sets (depth : Nat) (key : String) (document : Json) :
    {types : List Type} → Fields types → Slots types → Slots types → Prop
  | here {α : Type} {types : List Type} {schema : Schema α} {absent : Option α}
      {rest : Fields types} {slots : Slots types} {found : α}
      (stands : Stands depth schema document found) :
      Sets depth key document (.field key schema absent rest) (none, slots) (some found, slots)
  | later {α : Type} {types : List Type} {name : String} {schema : Schema α} {absent : Option α}
      {rest : Fields types} {slot : Option α} {slots after : Slots types} (differ : key ≠ name)
      (sets : Sets depth key document rest slots after) :
      Sets depth key document (.field name schema absent rest) (slot, slots) (slot, after)
  | unknown (skips : Reads skipValue document.print ()) : Sets depth key document .done () ()

namespace Sets

variable {depth : Nat} {key : String} {document : Json} {types : List Type}
  {fields : Fields types} {slots after : Slots types}

/-- Members set fields of a document that has been read. -/
theorem putJson (sets : Sets depth key document fields slots after) :
    fields.putJson slots key document = .ok after := by
  induction sets with
  | here stands =>
    rw [Fields.putJson, if_pos rfl, stands.decodes]
    rfl
  | later differ _ ih =>
    rw [Fields.putJson, if_neg differ, ih]
    rfl
  | unknown => rfl

/-- Members set fields while a text is read. -/
theorem reads (sets : Sets depth key document fields slots after) :
    Reads (fields.readMember depth key slots) (':' :: document.print) after := by
  induction sets with
  | @here _ _ schema absent rest slots _ stands =>
    have here : (Fields.field key schema absent rest).readMember depth key (none, slots) =
        (do colon; return (some (← schema.read depth), slots)) :=
      (Fields.readMember.eq_2 ..).trans (if_pos rfl)
    rw [here]
    exact reads_colon.bind (stands.reads.last (.pure _))
  | @later _ _ name schema absent rest slot slots _ differ _ ih =>
    have later : (Fields.field name schema absent rest).readMember depth key (slot, slots) =
        (do return (slot, ← rest.readMember depth key slots)) :=
      (Fields.readMember.eq_2 ..).trans (if_neg differ)
    rw [later]
    exact ih.last (.pure _)
  | unknown skips =>
    have passed : Fields.done.readMember depth key () = (do colon; skipValue; return ()) :=
      Fields.readMember.eq_1 ..
    rw [passed]
    exact reads_colon.bind (skips.last (.pure _))

end Sets

/-- Members set the fields of a record one after another. -/
abbrev SetsAll (depth : Nat) {types : List Type} (fields : Fields types) :
    List (String × Json) → Slots types → Slots types → Prop :=
  Leads fun member => Sets depth member.1 member.2 fields

section Members

variable {depth : Nat} {types : List Type} {name : String} {schema : Schema α} {absent : Option α}
  {rest : Fields types} {members : List (String × Json)} {slots after : Slots types}

/-- Members of other keys leave a field as it is. -/
theorem SetsAll.later {slot : Option α} (sets : SetsAll depth rest members slots after)
    (unnamed : name ∉ members.map Prod.fst) :
    SetsAll depth (.field name schema absent rest) members (slot, slots) (slot, after) := by
  induction sets with
  | nil state => exact .nil _
  | cons here _ ih =>
    have ⟨differ, others⟩ := not_or.mp (List.mem_cons.not.mp unnamed)
    exact .cons (.later (Ne.symm differ) here) (ih others)

/-- The member of a field may stand anywhere among the others. -/
theorem SetsAll.here {found : α} {document : Json} (stands : Stands depth schema document found)
    {later : List (String × Json)} : ∀ {earlier : List (String × Json)} {slots : Slots types},
      SetsAll depth rest (earlier ++ later) slots after →
      name ∉ (earlier ++ later).map Prod.fst →
      SetsAll depth (.field name schema absent rest) (earlier ++ (name, document) :: later)
        (none, slots) (some found, after)
  | [], _, sets, unnamed => .cons (.here stands) (sets.later unnamed)
  | _ :: _, _, .cons here sets, unnamed => by
    have ⟨differ, others⟩ := not_or.mp (List.mem_cons.not.mp unnamed)
    exact .cons (.later (Ne.symm differ) here) (SetsAll.here stands sets others)

end Members

/-- What the members of an object give to the fields of a record: a field has what the member of its
name stands for, or else its absent value. -/
inductive Gives (depth : Nat) (members : List (String × Json)) :
    {types : List Type} → Fields types → Filled types → Prop
  | done : Gives depth members .done ()
  | listed {α : Type} {types : List Type} {name : String} {schema : Schema α} {absent : Option α}
      {rest : Fields types} {document : Json} {value : α} {values : Filled types}
      (member : (name, document) ∈ members) (stands : Stands depth schema document value)
      (others : Gives depth members rest values) :
      Gives depth members (.field name schema absent rest) (value, values)
  | unlisted {α : Type} {types : List Type} {name : String} {schema : Schema α} {value : α}
      {rest : Fields types} {values : Filled types} (missing : name ∉ members.map Prod.fst)
      (others : Gives depth members rest values) :
      Gives depth members (.field name schema (some value) rest) (value, values)

/-- What no field asks for can be passed over. -/
def Passable {types : List Type} (fields : Fields types) (members : List (String × Json)) : Prop :=
  ∀ member ∈ members, member.1 ∉ fields.names → Reads skipValue member.2.print ()

/-- Without the member of a field, the other fields ask for the same. -/
theorem Passable.rest {types : List Type} {name : String} {schema : Schema α} {absent : Option α}
    {rest : Fields types} {members others : List (String × Json)}
    (passable : Passable (.field name schema absent rest) members) (kept : others ⊆ members)
    (unnamed : name ∉ others.map Prod.fst) : Passable rest others := by
  intro member among unasked
  have differ : member.1 ≠ name := fun same => unnamed (same ▸ List.mem_map_of_mem among)
  exact passable member (kept among) (List.not_mem_cons_of_ne_of_not_mem differ unasked)

theorem Passable.setsAll_done {depth : Nat} {members : List (String × Json)}
    (passable : Passable .done members) : SetsAll depth .done members () () := by
  induction members with
  | nil => exact .nil ()
  | cons member members ih =>
    obtain ⟨here, later⟩ := List.forall_mem_cons.mp passable
    exact .cons (.unknown (here List.not_mem_nil)) (ih later)

namespace Gives

variable {depth : Nat} {types : List Type} {fields : Fields types} {values : Filled types}

/-- A member that no field asks for can be left out. -/
theorem leaveOut {earlier later : List (String × Json)} {member : String × Json}
    (gives : Gives depth (earlier ++ member :: later) fields values)
    (unasked : member.1 ∉ fields.names) : Gives depth (earlier ++ later) fields values := by
  induction gives with
  | done => exact .done
  | @listed _ _ name _ _ _ document _ _ among stands _ ih =>
    have ⟨differ, others⟩ := not_or.mp (List.mem_cons.not.mp unasked)
    have other : (name, document) ≠ member := fun same => differ (congrArg Prod.fst same).symm
    refine .listed ?_ stands (ih others)
    rcases List.mem_append.mp among with before | after
    · exact List.mem_append_left _ before
    · exact List.mem_append_right _ ((List.mem_cons.mp after).resolve_left other)
  | unlisted missing _ ih =>
    have ⟨_, others⟩ := not_or.mp (List.mem_cons.not.mp unasked)
    refine .unlisted (fun among => missing ?_) (ih others)
    have kept := (List.Sublist.refl (earlier ++ later)).middle member
    exact (kept.map Prod.fst).subset among

/-- **Fields are found whatever the order of the members.** -/
theorem setsAll : {types : List Type} → {fields : Fields types} → {values : Filled types} →
    {members : List (String × Json)} → Gives depth members fields values →
    fields.names.Nodup → (members.map Prod.fst).Nodup → Passable fields members →
    ∃ slots, SetsAll depth fields members (Slots.empty types) slots ∧ fields.fill slots = .ok values
  | _, .done, _, _, .done, _, _, passable => ⟨(), passable.setsAll_done, rfl⟩
  | _, .field name _ _ rest, _, _, .listed among stands others, names, distinct, passable => by
    have ⟨once, names⟩ := List.nodup_cons.mp names
    obtain ⟨earlier, later, rfl⟩ := List.append_of_mem among
    have moved := (List.perm_middle.map Prod.fst).nodup_iff.mp distinct
    have ⟨unnamed, distinct⟩ := List.nodup_cons.mp moved
    have kept := (List.Sublist.refl (earlier ++ later)).middle
    obtain ⟨slots, sets, filled⟩ := setsAll (others.leaveOut once) names distinct
      (passable.rest (kept _).subset unnamed)
    refine ⟨_, SetsAll.here stands sets unnamed, ?_⟩
    show (rest.fill slots).map _ = _
    rw [filled]
    rfl
  | _, .field name _ _ rest, _, _, .unlisted missing others, names, distinct, passable => by
    have ⟨_, names⟩ := List.nodup_cons.mp names
    obtain ⟨slots, sets, filled⟩ := setsAll others names distinct
      (passable.rest (List.Subset.refl _) missing)
    refine ⟨_, sets.later missing, ?_⟩
    show (rest.fill slots).map _ = _
    rw [filled]
    rfl

end Gives

/-- **An object stands for the record of the fields that its members give**, in whatever order they
come. -/
theorem stands_record {depth : Nat} (deep : 1 < depth) {types : List Type} {fields : Fields types}
    {values : Filled types} {members : List (String × Json)}
    (gives : Gives (depth - 1) members fields values) (names : fields.names.Nodup)
    (distinct : (members.map Prod.fst).Nodup) (passable : Passable fields members) {name : String}
    {build : Filled types → α} {value : α} (built : build values = value) :
    Stands depth (.record name fields build) (.object members) value := by
  subst built
  obtain ⟨slots, sets, filled⟩ := gives.setsAll names distinct passable
  constructor
  · have found : members.foldlM (fun slots member => fields.putJson slots member.1 member.2)
        (Slots.empty types) = .ok slots := by
      refine foldlM_of_leads ?_ sets
      exact fun _ _ _ => Sets.putJson
    refine bind_ok_iff.mpr ⟨slots, found, ?_⟩
    rw [filled]
  · have inside := reads_members (sets.mono fun _ _ _ => Sets.reads)
    refine .gap rfl ?_
    rw [if_neg (by decide)]
    refine .gap rfl ?_
    rw [if_pos rfl]
    refine reads_deeper deep ((inside.last ?_).enclosed closeObject_cons)
    rw [filled]
    exact .pure _

end CatalogPages
