/-
**Filters that make lists.**

* `sorted`: texts are compared without regard to capital letters unless they are to be told apart;
* `groups`: items with their groups, in the order of what they are grouped by;
* `unique`: the first of the items that are the same.
-/

import CatalogPages.Script.Filters.Texts

namespace CatalogPages.Script

/-- A text without capital letters of ASCII. -/
def foldCapitals (text : String) : String :=
  String.ofList (text.toList.map Char.toLower)

/-- The order of two values; texts may be compared without regard to capital letters. -/
def orderLoosely (exact : Bool) : Value → Value → Ordering
  | .text left _, .text right _ =>
    if exact then compare left right else compare (foldCapitals left) (foldCapitals right)
  | left, right => left.order right

/-- Items in an order, without change among those that it does not tell apart. -/
def sorted (order : α → α → Ordering) (items : List α) : List α :=
  items.mergeSort fun left right => order left right != .gt

namespace Filter

/-! ### Parts -/

def length : Filter := fun _ value =>
  match value.count? with
  | some n => return .integer n
  | none => throw .invalidOperation

/-- The items of a value that has items, a text's characters among them. -/
def itemsWithin (value : Value) : Taking (List Value) :=
  match value with
  | .undefined | .none => throw .invalidOperation
  | value => value.items

def first : Filter := fun _ value => do
  return (← itemsWithin value).head?.getD .undefined

/-- The last item of a list, or the last character of a text, which is as safe as the text. -/
def last : Filter := fun _ value => do
  match value.kind with
  | .text | .sequence | .stream => return (value.item? (.integer (-1))).getD .undefined
  | _ => throw .invalidOperation

def reverse : Filter := fun _ value => do
  match value with
  | .undefined | .none => return value
  | .text text safe => return .text (String.ofList text.toList.reverse) safe
  | value => return .stream (← value.items).reverse true

def list : Filter := fun _ value => return .list (← value.items)

/-- The entries of a map. -/
def entriesOf (value : Value) : Taking (List (Value × Value)) :=
  match value.entries? with
  | some entries => return entries
  | none => throw .invalidOperation

/-- An entry as a list of its key and its value. -/
def pair (entry : Value × Value) : Value :=
  .list [entry.1, entry.2]

def items : Filter := fun _ value => return .stream ((← entriesOf value).map pair) true

def memberAt : Filter := fun _ value => do
  value.item (← Taking.next)

/-- The value, or another one if it has none, or if it does not hold where that is asked for. -/
def default : Filter := fun _ value => do
  Taking.useNames
  let placed ← Taking.optional
  let placedLax ← Taking.optional
  let other := placed.or ((← Taking.named? "default_value").bind Taking.given?)
  let lax := placedLax.or ((← Taking.named? "boolean").bind Taking.given?)
  let lax := (← lax.mapM Taking.asFlag).getD false
  let missing := value matches .undefined || (lax && !value.isTrue)
  return if missing then other.getD (.ofText []) else value

/-! ### Order -/

/-- What items are ordered by: themselves, or what is reached by one of several paths. -/
def orderByPaths (exact : Bool) (paths : Option String) (left right : Value) : Ordering :=
  match paths with
  | none => orderLoosely exact left right
  | some paths =>
    (paths.splitOn ",").foldl (fun order path =>
      order.then (match left.path path, right.path path with
        | .ok left, .ok right => orderLoosely exact left right
        | _, _ => .eq)) .eq

def sort : Filter := fun _ value => do
  Taking.useNames
  Taking.noMore
  let items ← value.items
  let exact ← Taking.flag "case_sensitive"
  let paths ← Taking.nameOf? "attribute"
  let items := sorted (orderByPaths exact paths) items
  return .list (if ← Taking.flag "reverse" then items.reverse else items)

/-- Which part of an entry a map is sorted by. -/
def entryPart : Option String → Taking (Value × Value → Value)
  | none | some "key" => return Prod.fst
  | some "value" => return Prod.snd
  | some _ => throw .invalidOperation

def dictsort : Filter := fun _ value => do
  Taking.useNames
  Taking.noMore
  let entries ← entriesOf value
  let part ← entryPart (← Taking.nameOf? "by")
  let exact ← Taking.flag "case_sensitive"
  let entries := sorted (fun left right => orderLoosely exact (part left) (part right)) entries
  return .list ((if ← Taking.flag "reverse" then entries.reverse else entries).map pair)

/-- The first of the items with the same key. -/
def firstOfEach (key : Value → Value) : (seen items : List Value) → List Value
  | _, [] => []
  | seen, item :: rest =>
    if seen.any fun other => (key item).order other == .eq then firstOfEach key seen rest
    else item :: firstOfEach key (key item :: seen) rest

/-- What tells items apart: a text without capital letters, unless they are to be told apart. -/
def identity (exact : Bool) : Value → Value
  | .text text safe =>
    if exact then .text text safe else .ofText (Text.lowercase text.toList)
  | value => value

def unique : Filter := fun _ value => do
  Taking.useNames
  Taking.noMore
  let path ← Taking.nameOf? "attribute"
  let exact ← Taking.flag "case_sensitive"
  Taking.noMoreNames
  let key (item : Value) : Value := match path with
    | some path => item.pathOr .undefined path
    | none => item
  return .list (firstOfEach (fun item => identity exact (key item)) [] (← value.items))

/-! ### Groups -/

/-- A group of items, which are at hand as `grouper` and `list`. -/
def group (grouper : Value) (items : List Value) : Value :=
  .tuple ["grouper", "list"] [grouper, .stream items true]

/-- Items with what they are grouped by, put together where that is the same in neighbours. A group
is named for its last item. -/
def groups (order : Value → Value → Ordering) : List (Value × Value) → List (Value × List Value)
  | [] => []
  | (key, item) :: rest =>
    match groups order rest, rest with
    | (grouper, items) :: more, (nextKey, _) :: _ =>
      if order key nextKey == .eq then (grouper, item :: items) :: more
      else (key, [item]) :: (grouper, items) :: more
    | more, _ => (key, [item]) :: more

def groupby : Filter := fun _ value => do
  Taking.useNames
  let placed ← Taking.optional
  Taking.noMore
  let default := ((← Taking.named? "default").bind Taking.given?).getD .undefined
  let exact ← Taking.flag "case_sensitive"
  let path ← match placed with
    | some path => Taking.asName path
    | none =>
      match ← Taking.named? "attribute" with
      | some path => Taking.asName path
      | none => throw .missingArgument
  let keyed := (← value.items).map fun item => (item.pathOr default path, item)
  let order := orderLoosely exact
  let keyed := sorted (fun left right => order left.1 right.1) keyed
  return .list ((groups order keyed).map fun (grouper, items) => group grouper items)

/-- Runs of so many items; the last may be shorter. -/
def runs (length : Nat) : (steps : Nat) → List α → List (List α)
  | 0, _ => []
  | _ + 1, [] => []
  | steps + 1, items => items.take length :: runs length steps (items.drop length)

def batch : Filter := fun _ value => do
  let length ← Taking.asCount (← Taking.next)
  let filler ← Taking.optional
  Taking.noMore
  if length = 0 then throw .invalidOperation
  let items ← value.items
  let fill (run : List Value) : List Value := match filler with
    | some filler => run ++ List.replicate (length - run.length) filler
    | none => run
  return .list ((runs length items.length items).map fun run => .list (fill run))

/-- So many runs of items, of which the first ones are longer by one if they do not come out
even; the others may be filled up. -/
def shares (filler : Option Value) (base longer : Nat) : (count : Nat) → List Value → List Value
  | 0, _ => []
  | count + 1, items =>
    match longer with
    | 0 => .list (items.take base ++ filler.toList) :: shares filler base 0 count (items.drop base)
    | longer + 1 =>
      .list (items.take (base + 1)) :: shares filler base longer count (items.drop (base + 1))

def slice : Filter := fun _ value => do
  let count ← Taking.asCount (← Taking.next)
  let filler ← Taking.optional
  Taking.noMore
  if count = 0 then throw .invalidOperation
  let items ← value.items
  return .list (shares filler (items.length / count) (items.length % count) count items)

/-! ### Several lists -/

/-- Lists one after another, or maps as one in which the last counts. -/
def chain : Filter := fun _ value => do
  let all := value :: (← Taking.rest)
  if all.all (·.kind == .map) then
    let entries := all.flatMap fun value => value.entries?.getD []
    return .map (entries.foldl (fun map (key, value) => Value.put key value map) [])
  let lists ← all.mapM fun value => (value.items : Taking (List Value))
  return if all.all (·.kind == .sequence) then .list lists.flatten else .stream lists.flatten false

/-- The items at the same places of lists, as long as all have one. -/
def zipped : (lists : List (List Value)) → List (List Value)
  | [] => []
  | [only] => only.map fun item => [item]
  | first :: rest => List.zipWith (fun item items => item :: items) first (zipped rest)

def zip : Filter := fun _ value => do
  let all := value :: (← Taking.rest)
  let lists ← all.mapM fun value => (value.items : Taking (List Value))
  return .stream ((zipped lists).map .list) false

end Filter

/-- The filters that make lists or look at parts, by name. -/
def listFilters : List (String × Filter) := [
  ("length", .length),
  ("count", .length),
  ("first", .first),
  ("last", .last),
  ("reverse", .reverse),
  ("list", .list),
  ("items", .items),
  ("attr", .memberAt),
  ("default", .default),
  ("d", .default),
  ("sort", .sort),
  ("dictsort", .dictsort),
  ("unique", .unique),
  ("groupby", .groupby),
  ("batch", .batch),
  ("slice", .slice),
  ("chain", .chain),
  ("zip", .zip)]

end CatalogPages.Script
