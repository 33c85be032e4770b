/-
**What a record's fields are given.**

A record is written as an object of its fields, by name, or as a list of their values, by place. A
field takes what stands for it there, and otherwise the value that it has when it is absent.

* `Resolves`: a field's value, by what stands for it, if anything does;
* `Given`: the same for the members of an object, each of which has to stand for something where
  several have the name of a field;
* `Json.Supplies`: what a document gives to a field, whether it is an object or a list;
* `Fields.foldlM_fill_iff`, `Fields.ofItems_ok_iff`: what objects and lists give to all fields, one
  field at a time;
* `Schema.ofJson_record_iff`: the documents that are a record;
* `Toml.Value.field?`: what a value of a settings file gives to a field;
* `Schema.ofToml_record_iff`: the values of a settings file that are a record.
-/

import CatalogPages.Proofs.Json.Decoding
import CatalogPages.Schema.OfToml

namespace CatalogPages

variable {α β : Type} {types : List Type}

/-! ### One field -/

/-- The value of a field: of what stands there, or else its absent value. -/
inductive Resolves (stands : β → α → Prop) (absent : Option α) : Option β → α → Prop
  | there {document : β} {value : α} (here : stands document value) :
      Resolves stands absent (some document) value
  | missing {value : α} (default : absent = some value) : Resolves stands absent none value

theorem resolves_some_iff {stands : β → α → Prop} {absent : Option α} {document : β} {value : α} :
    Resolves stands absent (some document) value ↔ stands document value := by
  constructor
  · rintro ⟨there⟩
    exact there
  · exact .there

theorem resolves_none_iff {stands : β → α → Prop} {absent : Option α} {value : α} :
    Resolves stands absent none value ↔ absent = some value := by
  constructor
  · rintro (_ | missing)
    exact missing
  · exact .missing

/-- Where nothing stands for two values, a field has one value at most. -/
theorem Resolves.unique {stands : β → α → Prop} {absent : Option α} {document? : Option β}
    {value other : α} (resolves : Resolves stands absent document? value)
    (resolves' : Resolves stands absent document? other)
    (one : ∀ document value other, stands document value → stands document other →
      value = other) : value = other := by
  cases resolves with
  | there here => exact one _ _ _ here (resolves_some_iff.mp resolves')
  | missing default =>
    exact Option.some.inj (default.symm.trans (resolves_none_iff.mp resolves'))

/-- What members give to the field of a name: the last of that name counts, and each of that name
has to stand for something. -/
@[mk_iff]
structure Given (members : List (String × β)) (name : String) (stands : β → α → Prop)
    (absent : Option α) (value : α) : Prop where
  each : ∀ document, (name, document) ∈ members → ∃ found, stands document found
  last : Resolves stands absent (members.reverse.lookup name) value

/-- What is found in the members of some names is what is found in all. -/
theorem lookup_filter_of_mem {name : String} {known : List String} (asked : name ∈ known)
    (members : List (String × β)) :
    (members.filter (·.1 ∈ known)).lookup name = members.lookup name := by
  induction members with
  | nil => rfl
  | cons member members ih =>
    obtain ⟨key, document⟩ := member
    by_cases same : name = key
    · subst same
      rw [List.filter_cons_of_pos (by simpa using asked), Keyed.lookup_cons_of_eq,
        Keyed.lookup_cons_of_eq]
    · rw [Keyed.lookup_cons_of_ne same]
      by_cases kept : key ∈ known
      · rw [List.filter_cons_of_pos (by simpa using kept), Keyed.lookup_cons_of_ne same, ih]
      · rw [List.filter_cons_of_neg (by simpa using kept), ih]

/-- Members of other names give nothing. -/
theorem Given.filter_iff {stands : β → α → Prop} {name : String} {known : List String}
    (asked : name ∈ known) {members : List (String × β)} {absent : Option α} {value : α} :
    Given (members.filter (·.1 ∈ known)) name stands absent value ↔
      Given members name stands absent value := by
  have each (document : β) :
      (name, document) ∈ members.filter (·.1 ∈ known) ↔ (name, document) ∈ members := by
    simp [asked]
  have last : (members.filter (·.1 ∈ known)).reverse.lookup name = members.reverse.lookup name := by
    rw [← List.filter_reverse]
    exact lookup_filter_of_mem asked members.reverse
  rw [given_iff, given_iff, last]
  simp only [each]

/-- What a document supplies to a field: by its name in an object, and by its place in a list. -/
def Json.Supplies (document : Json) (name : String) (place : Nat) (stands : Json → α → Prop)
    (absent : Option α) (value : α) : Prop :=
  match document with
  | .object members => Given members name stands absent value
  | .array items => Resolves stands absent items[place]? value
  | _ => False

/-- What a document supplies to each field, from a place on. -/
def Fields.SuppliedBy (document : Json) :
    {types : List Type} → Fields types → Nat → Filled types → Prop
  | _, .done, _, () => True
  | _, .field name schema absent rest, place, (value, values) =>
    document.Supplies name place (fun document value => schema.ofJson document = .ok value) absent
        value ∧
      rest.SuppliedBy document (place + 1) values

/-! ### Objects -/

/-- How members fill the slot of a field: one of its name sets it, and another leaves it. -/
inductive FillsSlot (schema : Schema α) (name : String) :
    List (String × Json) → Option α → Option α → Prop
  | done (slot : Option α) : FillsSlot schema name [] slot slot
  | here {document : Json} {found : α} {members : List (String × Json)} {slot last : Option α}
      (decodes : schema.ofJson document = .ok found)
      (later : FillsSlot schema name members (some found) last) :
      FillsSlot schema name ((name, document) :: members) slot last
  | other {key : String} {document : Json} {members : List (String × Json)} {slot last : Option α}
      (differ : key ≠ name) (later : FillsSlot schema name members slot last) :
      FillsSlot schema name ((key, document) :: members) slot last

namespace FillsSlot

variable {schema : Schema α} {name : String} {members : List (String × Json)}
  {slot last : Option α}

theorem each (fills : FillsSlot schema name members slot last) :
    ∀ document, (name, document) ∈ members → ∃ found, schema.ofJson document = .ok found := by
  induction fills with
  | done => exact fun _ member => nomatch member
  | here decodes _ ih =>
    intro document member
    rcases List.mem_cons.mp member with same | member
    · obtain rfl := (Prod.mk.inj same).2
      exact ⟨_, decodes⟩
    · exact ih document member
  | other differ _ ih =>
    intro document member
    rcases List.mem_cons.mp member with same | member
    · exact absurd (Prod.mk.inj same).1.symm differ
    · exact ih document member

/-- The last member of the name decides what is in the slot. -/
theorem last_found (fills : FillsSlot schema name members slot last) :
    (∃ document found, members.reverse.lookup name = some document ∧
      schema.ofJson document = .ok found ∧ last = some found) ∨
    members.reverse.lookup name = none ∧ last = slot := by
  induction fills with
  | done => exact .inr ⟨rfl, rfl⟩
  | @here document found members _ _ decodes _ ih =>
    rw [List.reverse_cons, List.lookup_append]
    -- A later member of the name takes the place of this one.
    rcases ih with ⟨other, found', at_, decodes', rfl⟩ | ⟨none, rfl⟩
    · exact .inl ⟨other, found', by rw [at_]; rfl, decodes', rfl⟩
    · exact .inl ⟨document, found, by rw [none]; simp, decodes, rfl⟩
  | @other key document members _ _ differ _ ih =>
    have passed : [(key, document)].lookup name = none :=
      Keyed.lookup_cons_of_ne (Ne.symm differ) document []
    rw [List.reverse_cons, List.lookup_append, passed, Option.or_none]
    exact ih

end FillsSlot

theorem exists_fillsSlot {schema : Schema α} {name : String} {members : List (String × Json)}
    (each : ∀ document, (name, document) ∈ members →
      ∃ found, schema.ofJson document = .ok found) (slot : Option α) :
    ∃ last, FillsSlot schema name members slot last := by
  induction members generalizing slot with
  | nil => exact ⟨slot, .done slot⟩
  | cons member members ih =>
    obtain ⟨key, document⟩ := member
    have later := ih fun document member => each document (List.mem_cons_of_mem _ member)
    by_cases same : key = name
    · subst same
      obtain ⟨found, decodes⟩ := each document List.mem_cons_self
      obtain ⟨last, fills⟩ := later (some found)
      exact ⟨last, .here decodes fills⟩
    · obtain ⟨last, fills⟩ := later slot
      exact ⟨last, .other same fills⟩

/-- **A slot that members have filled, with the absent value behind it, holds what is given.** -/
theorem exists_fillsSlot_iff {schema : Schema α} {name : String} {members : List (String × Json)}
    {absent : Option α} {value : α} :
    (∃ last, FillsSlot schema name members none last ∧ last.or absent = some value) ↔
      Given members name (fun document value => schema.ofJson document = .ok value) absent
        value := by
  constructor
  · rintro ⟨last, fills, holds⟩
    refine ⟨fills.each, ?_⟩
    rcases fills.last_found with ⟨document, found, at_, decodes, rfl⟩ | ⟨none, rfl⟩
    · rw [at_]
      obtain rfl := Option.some.inj holds
      exact .there decodes
    · rw [none]
      exact .missing holds
  · rintro ⟨each, given⟩
    obtain ⟨last, fills⟩ := exists_fillsSlot each none
    refine ⟨last, fills, ?_⟩
    rcases fills.last_found with ⟨document, found, at_, decodes, rfl⟩ | ⟨none, rfl⟩
    · rw [at_, resolves_some_iff, decodes] at given
      exact congrArg some (Except.ok.inj given)
    · rw [none, resolves_none_iff] at given
      exact given

namespace Fields

/-- A member that no field asks for changes nothing. -/
theorem putJson_of_unnamed {name : String} (document : Json) :
    ∀ {types : List Type} {fields : Fields types}, name ∉ fields.names →
      ∀ slots, fields.putJson slots name document = .ok slots
  | _, .done, _, () => rfl
  | _, .field other schema absent rest, unnamed, (slot, slots) => by
    have ⟨differ, later⟩ := not_or.mp (List.mem_cons.not.mp unnamed)
    rw [putJson, if_neg differ, putJson_of_unnamed document later]
    rfl

theorem putJson_here {name : String} {schema : Schema α} {absent : Option α} {rest : Fields types}
    {document : Json} {slot : Option α} {slots : Slots types} {next : Slots (α :: types)} :
    (Fields.field name schema absent rest).putJson (slot, slots) name document = .ok next ↔
      ∃ found, schema.ofJson document = .ok found ∧ next = (some found, slots) := by
  rw [putJson, if_pos rfl]
  refine bind_ok_iff.trans (exists_congr fun found => and_congr_right fun _ => ?_)
  exact ⟨fun same => (Except.ok.inj same).symm, fun same => congrArg Except.ok same.symm⟩

theorem putJson_other {key name : String} (differ : key ≠ name) {schema : Schema α}
    {absent : Option α} {rest : Fields types} {document : Json} {slot : Option α}
    {slots : Slots types} {next : Slots (α :: types)} :
    (Fields.field name schema absent rest).putJson (slot, slots) key document = .ok next ↔
      ∃ after, rest.putJson slots key document = .ok after ∧ next = (slot, after) := by
  rw [putJson, if_neg differ]
  exact map_ok_iff

theorem foldlM_putJson_done (members : List (String × Json)) :
    members.foldlM (fun slots member => Fields.done.putJson slots member.1 member.2) () =
      .ok () := by
  induction members with
  | nil => rfl
  | cons member members ih => exact foldlM_cons_ok_iff.mpr ⟨(), rfl, ih⟩

/-- Members fill the slot of the first field, and the slots of the others. -/
theorem foldlM_putJson_iff {name : String} {schema : Schema α} {absent : Option α}
    {rest : Fields types} (unnamed : name ∉ rest.names) {members : List (String × Json)} :
    ∀ {slot last : Option α} {slots lasts : Slots types},
      members.foldlM (fun slots member =>
          (Fields.field name schema absent rest).putJson slots member.1 member.2) (slot, slots) =
        .ok (last, lasts) ↔
      FillsSlot schema name members slot last ∧
        members.foldlM (fun slots member => rest.putJson slots member.1 member.2) slots =
          .ok lasts := by
  induction members with
  | nil =>
    intro slot last slots lasts
    constructor
    · intro same
      obtain ⟨rfl, rfl⟩ := Prod.mk.inj (Except.ok.inj same)
      exact ⟨.done slot, rfl⟩
    · rintro ⟨⟨⟩, same⟩
      obtain rfl := Except.ok.inj same
      rfl
  | cons member members ih =>
    intro slot last slots lasts
    obtain ⟨key, document⟩ := member
    refine foldlM_cons_ok_iff.trans ?_
    -- A member of the first field's name passes the other fields by: none of them has the name.
    constructor
    · rintro ⟨next, first, later⟩
      by_cases same : key = name
      · subst same
        obtain ⟨found, decodes, rfl⟩ := putJson_here.mp first
        obtain ⟨fills, others⟩ := ih.mp later
        exact ⟨.here decodes fills,
          foldlM_cons_ok_iff.mpr ⟨_, putJson_of_unnamed document unnamed slots, others⟩⟩
      · obtain ⟨after, puts, rfl⟩ := (putJson_other same).mp first
        obtain ⟨fills, others⟩ := ih.mp later
        exact ⟨.other same fills, foldlM_cons_ok_iff.mpr ⟨_, puts, others⟩⟩
    · rintro ⟨fills, others⟩
      obtain ⟨after, puts, others⟩ := foldlM_cons_ok_iff.mp others
      cases fills with
      | here decodes fills =>
        obtain rfl := Except.ok.inj ((putJson_of_unnamed document unnamed slots).symm.trans puts)
        exact ⟨_, putJson_here.mpr ⟨_, decodes, rfl⟩, ih.mpr ⟨fills, others⟩⟩
      | other differ fills =>
        exact ⟨_, (putJson_other differ).mpr ⟨_, puts, rfl⟩, ih.mpr ⟨fills, others⟩⟩

theorem fill_field_iff {name : String} {schema : Schema α} {absent : Option α}
    {rest : Fields types} {slot : Option α} {slots : Slots types} {value : α}
    {values : Filled types} :
    (Fields.field name schema absent rest).fill (slot, slots) = .ok (value, values) ↔
      slot.or absent = some value ∧ rest.fill slots = .ok values := by
  rw [fill]
  cases slot.or absent with
  | none => simp
  | some found =>
    refine map_ok_iff.trans ?_
    constructor
    · rintro ⟨others, filled, same⟩
      obtain ⟨rfl, rfl⟩ := Prod.mk.inj same
      exact ⟨rfl, filled⟩
    · rintro ⟨same, filled⟩
      obtain rfl := Option.some.inj same
      exact ⟨values, filled, rfl⟩

/-- **The fields of a record are filled with what an object supplies**, one by one. -/
theorem foldlM_fill_iff (members : List (String × Json)) :
    ∀ {types : List Type} {fields : Fields types}, fields.names.Nodup →
      ∀ place values, (∃ slots, members.foldlM (fun slots member =>
          fields.putJson slots member.1 member.2) (Slots.empty types) = .ok slots ∧
          fields.fill slots = .ok values) ↔ fields.SuppliedBy (.object members) place values
  | _, .done, _, _, () => ⟨fun _ => trivial, fun _ => ⟨(), foldlM_putJson_done members, rfl⟩⟩
  | _, .field name schema absent rest, distinct, place, (value, values) => by
    have ⟨unnamed, others⟩ := List.nodup_cons.mp distinct
    rw [SuppliedBy, Json.Supplies, ← exists_fillsSlot_iff,
      ← foldlM_fill_iff members others (place + 1) values]
    constructor
    · rintro ⟨⟨last, lasts⟩, runs, filled⟩
      obtain ⟨fills, later⟩ := (foldlM_putJson_iff unnamed).mp runs
      obtain ⟨holds, filled⟩ := fill_field_iff.mp filled
      exact ⟨⟨last, fills, holds⟩, lasts, later, filled⟩
    · rintro ⟨⟨last, fills, holds⟩, lasts, later, filled⟩
      exact ⟨(last, lasts), (foldlM_putJson_iff unnamed).mpr ⟨fills, later⟩,
        fill_field_iff.mpr ⟨holds, filled⟩⟩

end Fields

/-! ### Lists -/

namespace Fields

/-- **The fields of a record take what a list supplies**, one by one. -/
theorem ofItems_ok_iff (title : String) (items : List Json) :
    ∀ {types : List Type} (fields : Fields types) (index place : Nat) (values : Filled types),
      fields.ofItems title index (items.drop place) = .ok (values, []) ↔
        fields.SuppliedBy (.array items) place values ∧ items.length ≤ place + fields.size
  | _, .done, index, place, () => by
    rw [SuppliedBy, size, ofItems, Nat.add_zero, ← List.drop_eq_nil_iff, true_and]
    constructor
    · exact fun same => (Prod.mk.inj (Except.ok.inj same)).2
    · exact fun none => by rw [none]
  | _, .field name schema absent rest, index, place, (value, values) => by
    -- What is left of the list begins at the place of the field.
    have here : items[place]? = (items.drop place).head? := List.head?_drop.symm
    rw [SuppliedBy, Json.Supplies, size, Nat.add_comm rest.size, ← Nat.add_assoc, and_assoc,
      ← ofItems_ok_iff title items rest (index + 1) (place + 1) values, here, ← List.tail_drop]
    cases items.drop place with
    | nil =>
      rw [List.head?_nil, resolves_none_iff, List.tail_nil]
      cases absent with
      | none => simp [ofItems]
      | some default =>
        rw [ofItems]
        refine map_ok_iff.trans ?_
        constructor
        · rintro ⟨⟨others, excess⟩, taken, same⟩
          obtain ⟨both, rfl⟩ := Prod.mk.inj same
          obtain ⟨rfl, rfl⟩ := Prod.mk.inj both
          exact ⟨rfl, taken⟩
        · rintro ⟨same, taken⟩
          obtain rfl := Option.some.inj same
          exact ⟨_, taken, rfl⟩
    | cons item others =>
      rw [List.head?_cons, resolves_some_iff, List.tail_cons, ofItems]
      refine bind_ok_iff.trans ?_
      constructor
      · rintro ⟨found, decodes, taken⟩
        obtain ⟨⟨others, excess⟩, taken, same⟩ := map_ok_iff.mp taken
        obtain ⟨both, rfl⟩ := Prod.mk.inj same
        obtain ⟨rfl, rfl⟩ := Prod.mk.inj both
        exact ⟨decodes, taken⟩
      · rintro ⟨decodes, taken⟩
        exact ⟨value, decodes, map_ok_iff.mpr ⟨_, taken, rfl⟩⟩

end Fields

/-! ### Records -/

/-- Documents that may be a record of so many fields: objects, and lists that are no longer. -/
inductive Json.MayFill (size : Nat) : Json → Prop
  | object (members : List (String × Json)) : MayFill size (.object members)
  | array {items : List Json} (short : items.length ≤ size) : MayFill size (.array items)

namespace Schema

variable {fields : Fields types} {name : String} {build : Filled types → α} {value : α}

theorem ofJson_object_iff (distinct : fields.names.Nodup) {members : List (String × Json)} :
    (Schema.record name fields build).ofJson (.object members) = .ok value ↔
      ∃ values, fields.SuppliedBy (.object members) 0 values ∧ build values = value := by
  simp only [← Fields.foldlM_fill_iff members distinct]
  refine bind_ok_iff.trans ?_
  constructor
  · rintro ⟨slots, runs, filled⟩
    cases fills : fields.fill slots with
    | error missing =>
      rw [fills] at filled
      cases filled
    | ok values =>
      rw [fills] at filled
      exact ⟨values, ⟨slots, runs, fills⟩, Except.ok.inj filled⟩
  · rintro ⟨values, ⟨slots, runs, fills⟩, rfl⟩
    refine ⟨slots, runs, ?_⟩
    rw [fills]

theorem ofJson_array_iff {items : List Json} :
    (Schema.record name fields build).ofJson (.array items) = .ok value ↔
      items.length ≤ fields.size ∧
        ∃ values, fields.SuppliedBy (.array items) 0 values ∧ build values = value := by
  have taken := fields.ofItems_ok_iff (fields.listTitle name) items 0 0
  rw [List.drop_zero, Nat.zero_add] at taken
  refine bind_ok_iff.trans ?_
  constructor
  · rintro ⟨⟨values, excess⟩, takes, built⟩
    cases excess with
    | nil =>
      obtain ⟨supplied, short⟩ := (taken values).mp takes
      exact ⟨short, values, supplied, Except.ok.inj built⟩
    | cons item others => cases built
  · rintro ⟨short, values, supplied, rfl⟩
    exact ⟨_, (taken values).mpr ⟨supplied, short⟩, rfl⟩

/-- **The documents that are a record**, and the record that they are. -/
theorem ofJson_record_iff (distinct : fields.names.Nodup) {document : Json} :
    (Schema.record name fields build).ofJson document = .ok value ↔
      document.MayFill fields.size ∧
        ∃ values, fields.SuppliedBy document 0 values ∧ build values = value := by
  cases document with
  | object members =>
    rw [ofJson_object_iff distinct]
    exact (and_iff_right (.object members)).symm
  | array items =>
    rw [ofJson_array_iff]
    exact and_congr_left' ⟨.array, fun | .array short => short⟩
  | _ => exact ⟨nofun, nofun⟩

end Schema

/-! ### Settings files -/

namespace Toml

/-- What a value gives to the field of a name and a place: the entry of the name, or in a list the
item of the place. -/
def Value.field? (name : String) (place : Nat) : Value → Option Value
  | .array items => items[place]?
  | value => value.entries?.bind (·.lookup name)

theorem Value.field?_of_entries {value : Value} {entries : List (String × Value)}
    (holds : value.entries? = some entries) (name : String) (place : Nat) :
    value.field? name place = entries.lookup name := by
  cases value with
  | table _ entries | moment written =>
    cases holds
    rfl
  | _ => cases holds

/-- Values that have fields: lists, tables and moments. -/
def Value.HasFields (value : Value) : Prop :=
  (∃ items, value = .array items) ∨ ∃ entries, value.entries? = some entries

theorem Value.hasFields_of_field? {value field : Value} {name : String} {place : Nat}
    (given : value.field? name place = some field) : value.HasFields := by
  cases value with
  | array items => exact .inl ⟨items, rfl⟩
  | table _ entries | moment written => exact .inr ⟨_, rfl⟩
  | _ => cases given

end Toml

namespace Fields

/-- What a value of a settings file gives to each field, from a place on. -/
def TakenFrom (value : Toml.Value) :
    {types : List Type} → Fields types → Nat → Filled types → Prop
  | _, .done, _, () => True
  | _, .field name schema absent rest, place, (found, values) =>
    Resolves (fun document found => schema.ofToml document = some found) absent
        (value.field? name place) found ∧
      rest.TakenFrom value (place + 1) values

/-- The first field and the others are found each by itself. -/
theorem bind_pair_eq_some_iff {first : Option α} {others : Option β} {value : α} {values : β} :
    (first.bind fun value => others.bind fun values => some (value, values)) =
        some (value, values) ↔ first = some value ∧ others = some values := by
  cases first with
  | none => simp
  | some found =>
    cases others with
    | none => simp
    | some rest => simp

theorem ofTomlEntries_eq_some_iff {value : Toml.Value} {entries : List (String × Toml.Value)}
    (holds : value.entries? = some entries) :
    ∀ {types : List Type} (fields : Fields types) (place : Nat) (values : Filled types),
      fields.ofTomlEntries entries = some values ↔ fields.TakenFrom value place values
  | _, .done, _, () => ⟨fun _ => trivial, fun _ => rfl⟩
  | _, .field name schema absent rest, place, (found, values) => by
    rw [TakenFrom, ← ofTomlEntries_eq_some_iff holds rest (place + 1) values,
      Toml.Value.field?_of_entries holds, ofTomlEntries]
    cases entries.lookup name with
    | none =>
      rw [resolves_none_iff]
      exact bind_pair_eq_some_iff
    | some document =>
      rw [resolves_some_iff]
      exact bind_pair_eq_some_iff

theorem ofTomlItems_eq_some_iff (items : List Toml.Value) :
    ∀ {types : List Type} (fields : Fields types) (place : Nat) (values : Filled types),
      fields.ofTomlItems (items.drop place) = some values ↔
        fields.TakenFrom (.array items) place values
  | _, .done, _, () => ⟨fun _ => trivial, fun _ => rfl⟩
  | _, .field name schema absent rest, place, (found, values) => by
    have here : (Toml.Value.array items).field? name place = (items.drop place).head? := by
      rw [List.head?_drop]
      rfl
    rw [TakenFrom, ← ofTomlItems_eq_some_iff items rest (place + 1) values, here,
      ← List.tail_drop]
    cases items.drop place with
    | nil =>
      rw [List.head?_nil, resolves_none_iff]
      exact bind_pair_eq_some_iff
    | cons item others =>
      rw [List.head?_cons, resolves_some_iff]
      exact bind_pair_eq_some_iff

end Fields

namespace Schema

variable {fields : Fields types} {name : String} {build : Filled types → α}

theorem ofToml_record_of_entries {document : Toml.Value} {entries : List (String × Toml.Value)}
    (holds : document.entries? = some entries) :
    (Schema.record name fields build).ofToml document =
      (fields.ofTomlEntries entries).map build := by
  cases document with
  | table _ entries | moment written =>
    cases holds
    exact Option.map_eq_bind.symm
  | _ => cases holds

/-- **The values of a settings file that are a record.** -/
theorem ofToml_record_iff {document : Toml.Value} {value : α} :
    (Schema.record name fields build).ofToml document = some value ↔
      document.HasFields ∧ ∃ values, fields.TakenFrom document 0 values ∧ build values = value := by
  constructor
  · intro decodes
    cases document with
    | array items =>
      obtain ⟨values, taken, built⟩ := Option.map_eq_some_iff.mp decodes
      exact ⟨.inl ⟨items, rfl⟩, values,
        (Fields.ofTomlItems_eq_some_iff items fields 0 values).mp taken, built⟩
    | table _ entries | moment written =>
      rw [ofToml_record_of_entries rfl] at decodes
      obtain ⟨values, taken, built⟩ := Option.map_eq_some_iff.mp decodes
      exact ⟨.inr ⟨_, rfl⟩, values,
        (Fields.ofTomlEntries_eq_some_iff rfl fields 0 values).mp taken, built⟩
    | _ => cases decodes
  · rintro ⟨⟨items, rfl⟩ | ⟨entries, holds⟩, values, taken, built⟩
    · exact Option.map_eq_some_iff.mpr
        ⟨values, (Fields.ofTomlItems_eq_some_iff items fields 0 values).mpr taken, built⟩
    · rw [ofToml_record_of_entries holds]
      exact Option.map_eq_some_iff.mpr
        ⟨values, (Fields.ofTomlEntries_eq_some_iff holds fields 0 values).mpr taken, built⟩

end Schema

end CatalogPages
