/-
**Variables of a page, and the sections that go with them.**

Every page has variables of its own, and the settings may add others. A variable that is added takes
the place of the page's own one of its name. The sections of a flag are kept or dropped before the
page is rendered, and nothing that is added changes that. So a section goes with the variable of its
name, unless the settings add a variable of that name.

* `Markers.Rules.Decides`: the sections of a flag are kept, and their opposites dropped, exactly
  when a statement holds;
* `Markers.Rules.decides_of_lookup`: the value of a flag is such a statement;
* `PageContext.lookup_members_of_global`, `lookup_members_of_own`: which value a name has;
* `PageContext.Affirms`: a variable that is true, or positive;
* `PageContext.Serves`: the variables of a release's pages, and what their sections hang on;
* `Settings.context_serves`: with these, what pages are rendered with, whatever the settings add.
-/

import CatalogPages.Proofs.Markers.Denotation
import CatalogPages.Proofs.Page.Failing
import CatalogPages.Proofs.Page.Values

namespace CatalogPages

open Script (Value)

/-! ### Sections of a flag -/

namespace Markers

open Text (skipLineBreak)

/-- The sections of a flag are kept when a statement holds, and their opposites when it does not,
whatever stands in them and after them. -/
structure Rules.Decides (rules : Rules) (flag : String) (holds : Prop) : Prop where
  kept : ∀ (opener closer : Tag) {inverted : Bool} {name : List Char}
    (opens : Marker.ofInner opener.inner = .opener inverted name)
    (closes : Marker.ofInner closer.inner = .closer name) (body rest : SectionTree)
    (inCategory : Bool), String.ofList name = flag → (holds ↔ inverted = false) →
      (SectionTree.enclosed opener inverted name opens body closer closes rest).text rules
          inCategory =
        skipLineBreak opener.following ++ body.text rules inCategory ++
          skipLineBreak closer.following ++ rest.text rules inCategory
  dropped : ∀ (opener closer : Tag) {inverted : Bool} {name : List Char}
    (opens : Marker.ofInner opener.inner = .opener inverted name)
    (closes : Marker.ofInner closer.inner = .closer name) (body rest : SectionTree)
    (inCategory : Bool), String.ofList name = flag → (holds ↔ inverted = true) →
      (SectionTree.enclosed opener inverted name opens body closer closes rest).text rules
          inCategory =
        skipLineBreak closer.following ++ rest.text rules inCategory

/-- A flag's value tells what kind of section a marker of its name opens. -/
theorem Rules.kind?_of_lookup {rules : Rules} {name : List Char} {value : Bool}
    (found : rules.flags.lookup (String.ofList name) = some value) (inverted : Bool) :
    rules.kind? inverted name = some (.flag (value != inverted)) := by
  rw [Rules.kind?, found]

/-- **The sections of a flag go with its value.** -/
theorem Rules.decides_of_lookup {rules : Rules} {flag : String} {value : Bool}
    (found : rules.flags.lookup flag = some value) : rules.Decides flag (value = true) where
  kept := by
    intro opener closer inverted name _ _ body rest inCategory named goes
    subst named
    have visible : (value != inverted) = true := by
      cases value <;> cases inverted <;> simp_all
    rw [SectionTree.text, Rules.kind?_of_lookup found, visible]
    rfl
  dropped := by
    intro opener closer inverted name _ _ body rest inCategory named goes
    subst named
    have hidden : (value != inverted) = false := by
      cases value <;> cases inverted <;> simp_all
    rw [SectionTree.text, Rules.kind?_of_lookup found, hidden]
    rfl

/-- Statements that say the same decide the same. -/
theorem Rules.Decides.congr {rules : Rules} {flag : String} {holds other : Prop}
    (decides : rules.Decides flag holds) (same : holds ↔ other) : rules.Decides flag other where
  kept opener closer _ _ opens closes body rest inCategory named goes :=
    decides.kept opener closer opens closes body rest inCategory named (same.trans goes)
  dropped opener closer _ _ opens closes body rest inCategory named goes :=
    decides.dropped opener closer opens closes body rest inCategory named (same.trans goes)

/-- A section that is kept is not dropped. -/
theorem Rules.Decides.imp {rules : Rules} {flag : String} {holds other : Prop}
    (decides : rules.Decides flag holds) (decides' : rules.Decides flag other)
    (opens : Marker.ofInner ('#' :: flag.toList) = .opener false flag.toList)
    (closes : Marker.ofInner ('/' :: flag.toList) = .closer flag.toList) (here : holds) :
    other := by
  by_contra there
  -- A section with something after its first marker, which shows when the section is kept.
  have kept := decides.kept ⟨1, _, ['x']⟩ ⟨1, _, []⟩ opens closes .done .done false
    String.ofList_toList (iff_of_true here rfl)
  have dropped := decides'.dropped ⟨1, _, ['x']⟩ ⟨1, _, []⟩ opens closes .done .done false
    String.ofList_toList (iff_of_false there Bool.false_ne_true)
  exact List.cons_ne_nil _ _ (kept.symm.trans dropped)

end Markers

/-! ### Variables -/

namespace PageContext

variable {context : PageContext}

/-- The names of the variables that every page has. -/
theorem nodup_builtIn (context : PageContext) : (context.builtIn.map Prod.fst).Nodup := by
  show ["version", "version_underscored", "release_notes_url", "is_develop",
    "unreleased_lib_count", "unreleased_libs", "categories", "libraries"].Nodup
  decide

theorem names_builtInValues (context : PageContext) :
    context.builtInValues.map Prod.fst = context.builtIn.map Prod.fst :=
  rfl

/-- **A variable that the settings add has the value that they give**, whatever its name. -/
theorem lookup_members_of_global (isMap : Keyed.Ascending context.globals) {name : String}
    {value : Json} (added : context.globals.lookup name = some value) :
    context.members.lookup name = some value ∧
      context.values.lookup name = some (.ofJson value) := by
  have last := lookup_reverse_of_nodup name (isMap.distinct_keys)
  rw [lookup_members_eq, lookup_values_eq, last, added]
  exact ⟨rfl, rfl⟩

/-- **Any other variable has the page's own value.** -/
theorem lookup_members_of_own (isMap : Keyed.Ascending context.globals) {name : String}
    (own : context.globals.lookup name = none) :
    context.members.lookup name = context.builtIn.lookup name ∧
      context.values.lookup name = context.builtInValues.lookup name := by
  have last := lookup_reverse_of_nodup name (isMap.distinct_keys)
  rw [lookup_members_eq, lookup_values_eq, last, own]
  have distinct := context.nodup_builtIn
  refine ⟨lookup_reverse_of_nodup name distinct, lookup_reverse_of_nodup name ?_⟩
  rwa [names_builtInValues]

/-- A variable that is true, or positive. -/
inductive Affirms : Json → Prop
  | holds : Affirms (.bool true)
  | positive {number : Int} (above : 0 < number) : Affirms (.integer number)

theorem affirms_bool_iff (value : Bool) : Affirms (.bool value) ↔ value = true := by
  constructor
  · rintro ⟨⟩
    rfl
  · rintro rfl
    exact .holds

theorem affirms_integer_iff (number : Int) : Affirms (.integer number) ↔ 0 < number := by
  constructor
  · rintro (_ | above)
    exact above
  · exact .positive

/-- The flags that a page's sections can hang on. -/
def flagNames : List String :=
  ["is_develop", "unreleased_lib_count"]

/-- The variables of a release's pages, and what their sections hang on. -/
structure Serves (settings : Settings) (catalog : Catalog Library)
    (classification : Classification) (version : ReleaseVersion) (context : PageContext) :
    Prop where
  version : context.version = version
  isDevelop : context.isDevelop = settings.release.isDevelop
  libraries : context.libraries = classification.alphabetic.filterMap catalog.get?
  categories : context.categories = classification.categories.map fun entry =>
    ⟨entry.category, entry.libraryKeys.filterMap catalog.get?⟩
  unreleased : context.unreleased = context.libraries.filter (·.key ∈ settings.unreleased)
  /-- What the settings add is there, whatever its name. -/
  added : ∀ name value, settings.globals.lookup name = some value →
    context.members.lookup name = some value ∧ context.values.lookup name = some (.ofJson value)
  /-- Every other name has the page's own value, if there is one. -/
  own : ∀ name, settings.globals.lookup name = none →
    context.members.lookup name = context.builtIn.lookup name ∧
      context.values.lookup name = context.builtInValues.lookup name
  /-- Sections go with the release, whatever the settings add. -/
  sections : ∀ charset,
    (context.rules charset).Decides "is_develop" (settings.release = .development) ∧
      (context.rules charset).Decides "unreleased_lib_count" (context.unreleased ≠ [])
  /-- Sections go with the variable of their name, if the settings do not add it. -/
  agree : ∀ flag ∈ flagNames, settings.globals.lookup flag = none →
    ∃ value, context.members.lookup flag = some value ∧
      context.values.lookup flag = some (.ofJson value) ∧
      ∀ charset, (context.rules charset).Decides flag (Affirms value)

/-- The sections of a release go with the kind of the release, and with what is new. -/
theorem decides_flags (context : PageContext) (charset : Option (String × String)) :
    (context.rules charset).Decides "is_develop" (context.isDevelop = true) ∧
      (context.rules charset).Decides "unreleased_lib_count" (context.unreleased ≠ []) := by
  refine ⟨Markers.Rules.decides_of_lookup rfl, ?_⟩
  have counted : (context.rules charset).flags.lookup "unreleased_lib_count" =
      some (decide (0 < context.unreleasedCount)) := rfl
  refine (Markers.Rules.decides_of_lookup counted).congr ?_
  rw [decide_eq_true_iff, unreleasedCount, List.length_pos_iff]

/-- **Sections go with the variable of their name**, where that is the page's own. -/
theorem decides_own (isMap : Keyed.Ascending context.globals) {flag : String}
    (isFlag : flag ∈ flagNames) (own : context.globals.lookup flag = none) :
    ∃ value, context.members.lookup flag = some value ∧
      context.values.lookup flag = some (.ofJson value) ∧
      ∀ charset, (context.rules charset).Decides flag (Affirms value) := by
  obtain ⟨members, values⟩ := lookup_members_of_own isMap own
  have decided := context.decides_flags
  rw [members, values]
  simp only [flagNames, List.mem_cons, List.not_mem_nil, or_false] at isFlag
  rcases isFlag with rfl | rfl
  · exact ⟨.bool context.isDevelop, rfl, rfl, fun charset =>
      (decided charset).1.congr (affirms_bool_iff _).symm⟩
  · refine ⟨.integer context.unreleasedCount, rfl, rfl, fun charset =>
      (decided charset).2.congr ?_⟩
    rw [affirms_integer_iff, unreleasedCount, Int.natCast_pos, List.length_pos_iff]

end PageContext

theorem Release.isDevelop_iff (release : Release) :
    release.isDevelop = true ↔ release = .development := by
  cases release
  · exact iff_of_false Bool.false_ne_true Release.noConfusion
  · exact iff_of_true rfl rfl

namespace Settings

/-- The variables of a release's pages serve them. -/
theorem serves_of_context {settings : Settings} (isMap : Keyed.Ascending settings.globals)
    {catalog : Catalog Library} {version : ReleaseVersion} {context : PageContext}
    (made : (settings.context catalog version).result = .ok context) :
    ∃ classification, (classify settings.categories catalog).result = .ok classification ∧
      context.Serves settings catalog classification version := by
  rw [Settings.context, Traced.bind_eq, Traced.result_andThen] at made
  obtain ⟨classification, classified, marked⟩ := bind_ok_iff.mp made
  rw [PageContext.result_withUnreleased] at marked
  obtain rfl := Except.ok.inj marked
  refine ⟨classification, classified, rfl, rfl, rfl, rfl, ?_, ?_, ?_, ?_, ?_⟩
  · exact List.filter_congr fun library _ => List.contains_eq_mem _ _
  · intro name value added
    exact PageContext.lookup_members_of_global isMap added
  · intro name own
    exact PageContext.lookup_members_of_own isMap own
  · intro charset
    obtain ⟨develop, unreleased⟩ := PageContext.decides_flags _ charset
    exact ⟨develop.congr settings.release.isDevelop_iff, unreleased⟩
  · intro flag isFlag own
    exact PageContext.decides_own isMap isFlag own

/-- **What pages are rendered with, whatever the settings add.** Every variable that the settings
add has the value that they give, also where a page has a variable of its own of that name; every
other one has the page's own value. A section goes with the release and never with what is added, so
that it goes with the variable of its name unless the settings add one of that name. -/
theorem context_serves {settings : Settings} (isMap : Keyed.Ascending settings.globals)
    (catalog : Catalog Library) (version : ReleaseVersion) :
    ∃ classification context, (classify settings.categories catalog).result = .ok classification ∧
      (settings.context catalog version).result = .ok context ∧
      context.Serves settings catalog classification version := by
  obtain ⟨context, made⟩ := exists_context settings catalog version
  obtain ⟨classification, classified, serves⟩ := serves_of_context isMap made
  exact ⟨classification, context, classified, made, serves⟩

/-- Settings of a stable release that add a variable with the name of a flag. -/
def developGlobal : Settings where
  globals := [("is_develop", .bool true)]

/-- The variable is true, and yet its sections are dropped. -/
theorem context_serves_developGlobal :
    ∃ classification context, (classify .standard Catalog.empty).result = .ok classification ∧
      (developGlobal.context Catalog.empty (.ofText "" ['1'])).result = .ok context ∧
      context.Serves developGlobal Catalog.empty classification (.ofText "" ['1']) ∧
      context.members.lookup "is_develop" = some (.bool true) ∧
      context.members.lookup "version" = some (.string "1") ∧
      (context.rules none).Decides "is_develop" False := by
  have isMap : Keyed.Ascending developGlobal.globals := by decide
  obtain ⟨classification, context, classified, made, serves⟩ :=
    context_serves isMap Catalog.empty (.ofText "" ['1'])
  have stable : ¬ developGlobal.release = .development := by decide
  refine ⟨classification, context, classified, made, serves,
    (serves.added _ _ rfl).1, ?_, (serves.sections none).1.congr (iff_of_false stable not_false)⟩
  rw [(serves.own "version" rfl).1, PageContext.builtIn, serves.version]
  rfl

/-- An added variable contradicts the page's own one of its name, and the sections as well. -/
theorem developGlobal_contradicts :
    (¬ ∀ (settings : Settings) (catalog : Catalog Library) (version : ReleaseVersion)
        (context : PageContext), Keyed.Ascending settings.globals →
        (settings.context catalog version).result = .ok context →
        ∀ name value, context.builtIn.lookup name = some value →
          context.members.lookup name = some value) ∧
      ¬ ∀ (settings : Settings) (catalog : Catalog Library) (version : ReleaseVersion)
        (context : PageContext), Keyed.Ascending settings.globals →
        (settings.context catalog version).result = .ok context →
        ∀ flag ∈ PageContext.flagNames, ∀ value, context.members.lookup flag = some value →
          (context.rules none).Decides flag (PageContext.Affirms value) := by
  have isMap : Keyed.Ascending developGlobal.globals := by decide
  obtain ⟨context, made⟩ := exists_context developGlobal Catalog.empty (.ofText "" ['1'])
  obtain ⟨_, -, serves⟩ := serves_of_context isMap made
  have added := (serves.added "is_develop" (.bool true) rfl).1
  refine ⟨fun all => ?_, fun all => ?_⟩
  · have own : context.builtIn.lookup "is_develop" = some (.bool context.isDevelop) := rfl
    rw [serves.isDevelop] at own
    have shown := all _ _ _ _ isMap made _ _ own
    rw [added] at shown
    exact Bool.noConfusion (Json.bool.inj (Option.some.inj shown))
  · have goes := all _ _ _ _ isMap made _ List.mem_cons_self _ added
    exact absurd (goes.imp (serves.sections none).1 rfl rfl .holds) (by decide)

end Settings

end CatalogPages
