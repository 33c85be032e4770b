/-
**Pages are put out when all have been rendered.**

Everything that pages hang on is read from the tree as it is at the start. If a page cannot be
rendered nothing is written; otherwise pages take the place of their templates in order, or are
printed in order, and each is what it would be if it were the only one.

* `result_render`: rendering without its events;
* `IsPage`: what one template comes to in a tree;
* `Renders`: pages that a tree comes to, each of them on its own;
* `Replaces`: pages that have taken the place of their templates;
* `publish_after_render`: what a run leaves behind.
-/

import CatalogPages.Page
import CatalogPages.Proofs.FileTree.Overwriting
import CatalogPages.Proofs.Loading.Records
import CatalogPages.Proofs.Success
import Mathlib

namespace CatalogPages

namespace Settings

/-! ### Rendering -/

/-- Rendering without its events. -/
theorem result_render (settings : Settings) (engine : Engine) (tree : FileTree) (root : String) :
    (settings.render engine tree root).result =
      (settings.version tree root).bind fun version =>
        (settings.catalog tree root).result.bind fun catalog =>
          (settings.context catalog version).result.bind fun context =>
            settings.pages.mapM (settings.renderPage engine tree root context) := by
  unfold render
  rw [Traced.bind_eq, Traced.result_andThen, Traced.result_of]
  congr 1
  funext version
  rw [Traced.bind_eq, Traced.result_andThen]
  congr 1
  funext catalog
  rw [Traced.bind_eq, Traced.result_andThen]
  congr 1
  funext context
  rw [Traced.bind_eq, Traced.result_andThen, Traced.result_of]
  cases settings.pages.mapM (settings.renderPage engine tree root context) <;> rfl

/-- A release has the version that its version file declares. -/
theorem version_of_text {settings : Settings} {tree : FileTree} {root text : String}
    {bytes : ByteArray} {version : ReleaseVersion}
    (opens : tree.openNode (Path.join root settings.versionFile) = .ok (.file bytes))
    (decodes : String.fromUTF8? bytes = some text)
    (declares : ReleaseVersion.parse text settings.releaseNotesBase = .ok version) :
    settings.version tree root = .ok version := by
  unfold Settings.version FileTree.readVersion
  refine bind_ok_iff.mpr ⟨text, FileTree.readText_of_text opens decodes, ?_⟩
  rw [declares]
  rfl

/-- The variables that a tree gives. -/
def ContextOf (settings : Settings) (tree : FileTree) (root : String) (context : PageContext) :
    Prop :=
  ∃ version catalog, settings.version tree root = .ok version ∧
    (settings.catalog tree root).result = .ok catalog ∧
    (settings.context catalog version).result = .ok context

/-- Pages are rendered with the variables of the tree, one after another. -/
theorem render_ok_iff (settings : Settings) (engine : Engine) (tree : FileTree) (root : String)
    (pages : List Page) :
    (settings.render engine tree root).result = .ok pages ↔
      ∃ context, settings.ContextOf tree root context ∧
        List.Forall₂ (fun name page =>
          settings.renderPage engine tree root context name = .ok page) settings.pages pages := by
  rw [result_render]
  constructor
  · intro rendered
    obtain ⟨version, declares, rendered⟩ := bind_ok_iff.mp rendered
    obtain ⟨catalog, loads, rendered⟩ := bind_ok_iff.mp rendered
    obtain ⟨context, makes, rendered⟩ := bind_ok_iff.mp rendered
    exact ⟨context, ⟨version, catalog, declares, loads, makes⟩,
      (mapM_ok_iff_forall₂ _).mp rendered⟩
  · rintro ⟨context, ⟨version, catalog, declares, loads, makes⟩, each⟩
    refine bind_ok_iff.mpr ⟨version, declares, bind_ok_iff.mpr ⟨catalog, loads, ?_⟩⟩
    exact bind_ok_iff.mpr ⟨context, makes, (mapM_ok_iff_forall₂ _).mpr each⟩

/-- What one template comes to: its text as it is in the tree is compiled, rendered and fixed. -/
inductive IsPage (settings : Settings) (engine : Engine) (tree : FileTree) (root : String)
    (context : PageContext) (name : String) : Page → Prop
  | intro {source rendered : String} {template : List Char}
      (reads : tree.readText (Path.join root name) = .ok source)
      (compiles : (context.rules settings.encodingNames).compile source.toList = .ok template)
      (renders : engine name (String.ofList template) context = .ok rendered) :
      IsPage settings engine tree root context name
        ⟨name, Path.join root name, String.ofList (Fixup.applyAll settings.fixups rendered.toList)⟩

variable {settings : Settings} {engine : Engine} {tree : FileTree} {root : String}

theorem isPage_of_renderPage {context : PageContext} {name : String} {page : Page}
    (rendered : settings.renderPage engine tree root context name = .ok page) :
    settings.IsPage engine tree root context name page := by
  unfold renderPage at rendered
  obtain ⟨source, reads, rendered⟩ := bind_ok_iff.mp rendered
  obtain ⟨template, compiles, rendered⟩ := bind_ok_iff.mp rendered
  obtain ⟨text, renders, rendered⟩ := bind_ok_iff.mp rendered
  cases rendered
  exact .intro reads (mapError_ok_iff.mp (within_ok_iff.mp compiles)) renders

/-- Pages that a tree comes to: each is what its template comes to with the variables of the tree,
and what it would be if it were the only one. -/
structure Renders (settings : Settings) (engine : Engine) (tree : FileTree) (root : String)
    (pages : List Page) : Prop where
  together : ∃ context, settings.ContextOf tree root context ∧
    List.Forall₂ (settings.IsPage engine tree root context) settings.pages pages
  alone : List.Forall₂ (fun name page =>
    ({ settings with pages := [name] }.render engine tree root).result = .ok [page])
    settings.pages pages

/-- **A page hangs on no other.** -/
theorem renders_of_render {pages : List Page}
    (rendered : (settings.render engine tree root).result = .ok pages) :
    settings.Renders engine tree root pages := by
  obtain ⟨context, isContext, each⟩ := (render_ok_iff ..).mp rendered
  refine ⟨⟨context, isContext, each.imp fun _ _ => isPage_of_renderPage⟩, each.imp ?_⟩
  intro name page here
  exact (render_ok_iff ..).mpr ⟨context, isContext, .cons here .nil⟩

/-- What is read is a file that the path leads to. -/
theorem leadsTo_of_readText {path text : String} (reads : tree.readText path = .ok text) :
    ∃ location, tree.LeadsTo path location := by
  unfold FileTree.readText at reads
  obtain ⟨node, opened, holds⟩ := bind_ok_iff.mp reads
  obtain ⟨destination, resolved, found⟩ :=
    bind_ok_iff.mp (mapError_ok_iff.mp (within_ok_iff.mp opened))
  have isText := mapError_ok_iff.mp (within_ok_iff.mp holds)
  cases destination with
  | vacant location => cases found
  | vacantDirectory => cases found
  | present location node =>
    cases found
    cases node with
    | file bytes => exact ⟨location, bytes, resolved⟩
    | _ => cases isText

end Settings

/-! ### Writing -/

namespace Page

/-- Pages that are put in the place of files have their texts there, one after another. -/
theorem writeAll_inPlace {start : FileTree} {pages : List Page} {locations : List Location}
    (leads : List.Forall₂ (fun page location => start.LeadsTo page.path location) pages
      locations) :
    ∀ {tree : FileTree}, FileTree.SameShape start tree →
      (writeAll .inPlace tree pages).work.result = .ok () →
      (writeAll .inPlace tree pages).tree =
        tree.overwrite (locations.zip (pages.map Page.content)) := by
  -- What has been written leaves the shape of the tree at the start, so that every later path still
  -- leads to the file that it led to there.
  induction leads with
  | nil => exact fun _ _ => rfl
  | @cons page location pages locations here _ ih =>
    intro tree same written
    unfold writeAll at written ⊢
    cases writes : tree.writeText page.path page.content with
    | error fault =>
      simp only [writes] at written
      cases written
    | ok after =>
      simp only [writes] at written ⊢
      obtain rfl := FileTree.eq_put_of_writeText (same.leadsTo here) writes
      obtain ⟨bytes, found⟩ := (same.leadsTo here).node?
      exact ih (same.put found _) written

/-- Pages can be put in the place of files, unless their paths name directories. -/
theorem writeAll_inPlace_ok {start : FileTree} {pages : List Page}
    (leads : ∀ page ∈ pages, ∃ location, start.LeadsTo page.path location)
    (noSlash : ∀ page ∈ pages, (Path.names page.path).getLast? ≠ some "") :
    ∀ {tree : FileTree}, FileTree.SameShape start tree →
      (writeAll .inPlace tree pages).work.result = .ok () := by
  induction pages with
  | nil => exact fun _ => rfl
  | cons page pages ih =>
    intro tree same
    obtain ⟨location, here⟩ := leads page List.mem_cons_self
    obtain ⟨bytes, found⟩ := (same.leadsTo here).node?
    have writes := FileTree.writeText_of_leadsTo (same.leadsTo here)
      (noSlash page List.mem_cons_self) page.content
    unfold writeAll
    simp only [writes]
    exact ih (fun page later => leads page (List.mem_cons_of_mem _ later))
      (fun page later => noSlash page (List.mem_cons_of_mem _ later)) (same.put found _)

/-- Printing changes no file, and prints all texts in order. -/
theorem writeAll_stdout (tree : FileTree) (pages : List Page) :
    (writeAll .stdout tree pages).work.result = .ok () ∧
      (writeAll .stdout tree pages).tree = tree ∧
      (writeAll .stdout tree pages).printed = String.join (pages.map Page.content) := by
  induction pages with
  | nil => exact ⟨rfl, rfl, rfl⟩
  | cons page pages ih =>
    obtain ⟨succeeds, unchanged, printed⟩ := ih
    refine ⟨succeeds, unchanged, ?_⟩
    show page.content ++ (writeAll .stdout tree pages).printed = _
    rw [printed, List.map_cons, String.join_cons]

theorem printed_inPlace (pages : List Page) :
    ∀ tree : FileTree, (writeAll .inPlace tree pages).printed = "" := by
  induction pages with
  | nil => exact fun _ => rfl
  | cons page pages ih =>
    intro tree
    unfold writeAll
    cases tree.writeText page.path page.content with
    | error fault => rfl
    | ok after => exact ih after

end Page

namespace Settings

variable {settings : Settings} {engine : Engine} {tree : FileTree} {root : String}

theorem publish_of_error {fault : Fault}
    (failed : (settings.render engine tree root).result = .error fault) (delivery : Delivery) :
    settings.publish engine delivery tree root =
      ⟨tree, "", ⟨(settings.render engine tree root).events, .error fault⟩⟩ := by
  unfold publish
  simp only [failed]

theorem publish_of_ok {pages : List Page}
    (rendered : (settings.render engine tree root).result = .ok pages) (delivery : Delivery) :
    (settings.publish engine delivery tree root).tree = (Page.writeAll delivery tree pages).tree ∧
      (settings.publish engine delivery tree root).printed =
        (Page.writeAll delivery tree pages).printed ∧
      (settings.publish engine delivery tree root).work.result =
        (Page.writeAll delivery tree pages).work.result := by
  unfold publish
  simp only [rendered, and_self]

/-- The templates of some names are the files that their pages are put in the place of. -/
theorem leads_of_isPage {context : PageContext} {names : List String} {pages : List Page}
    (each : List.Forall₂ (settings.IsPage engine tree root context) names pages) :
    ∃ locations,
      List.Forall₂ (fun page location => tree.LeadsTo page.path location) pages locations ∧
      List.Forall₂ (fun name location => tree.LeadsTo (Path.join root name) location) names
        locations := by
  induction each with
  | nil => exact ⟨[], .nil, .nil⟩
  | cons here _ ih =>
    obtain ⟨locations, fromPages, fromNames⟩ := ih
    cases here with
    | intro reads _ _ =>
      obtain ⟨location, leads⟩ := leadsTo_of_readText reads
      exact ⟨location :: locations, .cons leads fromPages, .cons leads fromNames⟩

/-- Pages that have taken the place of their templates, one after another. Every file that is no
template is as it was. -/
structure Replaces (settings : Settings) (tree : FileTree) (root : String) (pages : List Page)
    (after : FileTree) : Prop where
  templates : ∃ locations,
    List.Forall₂ (fun page location => tree.LeadsTo page.path location) pages locations ∧
    after = tree.overwrite (locations.zip (pages.map Page.content))
  others : ∀ location, (∀ name ∈ settings.pages, ¬ tree.LeadsTo (Path.join root name) location) →
    after.node? location = tree.node? location

/-- **Pages that are written take the place of their templates, and of nothing else.** -/
theorem Renders.replaces {pages : List Page} (renders : settings.Renders engine tree root pages)
    (written : (Page.writeAll .inPlace tree pages).work.result = .ok ()) :
    settings.Replaces tree root pages (Page.writeAll .inPlace tree pages).tree := by
  obtain ⟨context, -, each⟩ := renders.together
  obtain ⟨locations, fromPages, fromNames⟩ := leads_of_isPage each
  have after := Page.writeAll_inPlace fromPages (.refl tree) written
  refine ⟨⟨locations, fromPages, after⟩, ?_⟩
  intro location noTemplate
  rw [after]
  refine FileTree.node?_overwrite_of_not_mem fun member => ?_
  obtain ⟨⟨_, text⟩, paired, rfl⟩ := List.mem_map.mp member
  obtain ⟨name, listed, leads⟩ := exists_left_of_forall₂ fromNames (List.of_mem_zip paired).1
  exact noTemplate name listed leads

/-- Pages whose paths name no directories can be put in the place of their templates. -/
theorem Renders.written {pages : List Page} (renders : settings.Renders engine tree root pages)
    (noSlash : ∀ name ∈ settings.pages, (Path.names (Path.join root name)).getLast? ≠ some "") :
    (Page.writeAll .inPlace tree pages).work.result = .ok () := by
  obtain ⟨context, -, each⟩ := renders.together
  have template : ∀ page ∈ pages, ∃ name ∈ settings.pages, page.path = Path.join root name ∧
      ∃ location, tree.LeadsTo page.path location := by
    intro page listed
    obtain ⟨name, configured, here⟩ := exists_left_of_forall₂ each listed
    cases here with
    | intro reads _ _ => exact ⟨name, configured, rfl, leadsTo_of_readText reads⟩
  refine Page.writeAll_inPlace_ok (fun page listed => ?_) (fun page listed => ?_) (.refl tree)
  · obtain ⟨name, configured, path, leads⟩ := template page listed
    exact leads
  · obtain ⟨name, configured, path, leads⟩ := template page listed
    rw [path]
    exact noSlash name configured

/-- **Pages are put out when all have been rendered.** A page that cannot be rendered ends the work
with its fault, and the tree is as it was. Otherwise each page is what it would be if it were the
only one; if all are written they take the place of their templates, and if they are printed
nothing is written. -/
theorem publish_after_render (settings : Settings) (engine : Engine) (tree : FileTree)
    (root : String) :
    match (settings.render engine tree root).result with
    | .error fault => ∀ delivery,
        (settings.publish engine delivery tree root).work.result = .error fault ∧
        (settings.publish engine delivery tree root).tree = tree ∧
        (settings.publish engine delivery tree root).printed = ""
    | .ok pages => settings.Renders engine tree root pages ∧
        ((settings.publish engine .inPlace tree root).work.result = .ok () →
          settings.Replaces tree root pages (settings.publish engine .inPlace tree root).tree) ∧
        (settings.publish engine .inPlace tree root).printed = "" ∧
        (settings.publish engine .stdout tree root).work.result = .ok () ∧
        (settings.publish engine .stdout tree root).tree = tree ∧
        (settings.publish engine .stdout tree root).printed =
          String.join (pages.map Page.content) := by
  cases rendered : (settings.render engine tree root).result with
  | error fault =>
    intro delivery
    rw [publish_of_error rendered]
    exact ⟨rfl, rfl, rfl⟩
  | ok pages =>
    have renders := renders_of_render rendered
    obtain ⟨after, text, result⟩ := publish_of_ok rendered .inPlace
    obtain ⟨unchanged, printed, succeeds⟩ := publish_of_ok rendered .stdout
    rw [after, text, result, unchanged, printed, succeeds]
    exact ⟨renders, renders.replaces, Page.printed_inPlace pages tree,
      Page.writeAll_stdout tree pages⟩

/-- A release without libraries. -/
def onePage (version page : ByteArray) : FileTree where
  nodes := [(["l"], .directory), (["v"], .file version), (["p"], .file page)]

/-- Settings that name one page twice. -/
def pageTwice : Settings where
  categories := .ofPairs []
  libsDir := "l"
  include_ := []
  versionFile := "v"
  releaseNotesBase := ""
  pages := ["p", "p"]
  charset := none
  corrections := []
  fixups := []

/-- An engine that writes every template twice. -/
def doubling : Engine := fun _ template _ => .ok (template ++ template)

/-- Variables without libraries. -/
def noLibraries : PageContext where
  version := .ofText "" ['1']
  categories := []
  libraries := []
  globals := []

theorem parse_versionOne :
    ReleaseVersion.parse "constant BOOST_VERSION : 1 ;" "" = .ok (.ofText "" ['1']) := by
  cbv

/-- A page that is named twice comes from its template both times. -/
theorem render_pageTwice {version page : ByteArray}
    (declares : String.fromUTF8? version = some "constant BOOST_VERSION : 1 ;")
    (holds : String.fromUTF8? page = some "a") :
    (pageTwice.render doubling (onePage version page) "").result =
      .ok [⟨"p", "p", "aa"⟩, ⟨"p", "p", "aa"⟩] := by
  have opens : (onePage version page).openNode (Path.join "" pageTwice.versionFile) =
      .ok (.file version) :=
    FileTree.openNode_of_walks rfl rfl (.last (by decide) rfl rfl)
  have declared : pageTwice.version (onePage version page) "" = .ok (.ofText "" ['1']) :=
    version_of_text opens declares parse_versionOne
  have catalog : (pageTwice.catalog (onePage version page) "").result = .ok Catalog.empty := by
    cbv
  have makes : (pageTwice.context Catalog.empty (.ofText "" ['1'])).result = .ok noLibraries := by
    cbv
  have rendered : pageTwice.renderPage doubling (onePage version page) "" noLibraries "p" =
      .ok ⟨"p", "p", "aa"⟩ := by
    have opens : (onePage version page).openNode (Path.join "" "p") = .ok (.file page) :=
      FileTree.openNode_of_walks rfl rfl (.last (by decide) rfl rfl)
    unfold renderPage
    refine bind_ok_iff.mpr ⟨"a", FileTree.readText_of_text opens holds, ?_⟩
    cbv
  exact (render_ok_iff ..).mpr ⟨_, ⟨_, _, declared, catalog, makes⟩,
    .cons rendered (.cons rendered .nil)⟩

/-- What is written first is not read again: both pages have the text of the template twice. -/
theorem publish_after_render_pageTwice :
    let tree := onePage "constant BOOST_VERSION : 1 ;".toUTF8 "a".toUTF8
    (pageTwice.publish doubling .inPlace tree "").work.result = .ok () ∧
      pageTwice.Replaces tree "" [⟨"p", "p", "aa"⟩, ⟨"p", "p", "aa"⟩]
        (pageTwice.publish doubling .inPlace tree "").tree := by
  intro tree
  have rendered : (pageTwice.render doubling tree "").result =
      .ok [⟨"p", "p", "aa"⟩, ⟨"p", "p", "aa"⟩] := render_pageTwice rfl rfl
  have published := publish_after_render pageTwice doubling tree ""
  rw [rendered] at published
  obtain ⟨renders, replaces, -⟩ := published
  have noSlash : ∀ name ∈ pageTwice.pages,
      (Path.names (Path.join "" name)).getLast? ≠ some "" := by
    decide +kernel
  have written := (publish_of_ok rendered .inPlace).2.2.trans (renders.written noSlash)
  exact ⟨written, replaces written⟩

end Settings

end CatalogPages
