/-
**A failure names what it was at.**

Rendering a release ends where its version, the libraries' directory, a metadata file or a template
is not as it must be, or where the engine refuses a page. The fault that it ends with names the
input that was being processed, whatever it is the cause of or caused by.

* `Fault.Names`: parameters of one detail in the chain of a fault;
* `StopsAt`: where rendering ends, and what is to be named there;
* `render_names_input`: the fault names it.
-/

import CatalogPages.Proofs.Loading.Candidates
import CatalogPages.Proofs.Page.Context
import CatalogPages.Proofs.Page.Publishing

namespace CatalogPages

/-! ### Names in faults -/

/-- A fault names some things, with their keys, in one detail of its chain. -/
def Fault.Names (fault : Fault) (named : List (String × String)) : Prop :=
  ∃ detail ∈ fault.details, ∀ pair ∈ named, ⟨some pair.1, pair.2⟩ ∈ detail.parameters

theorem Fault.names_of (message : String) (named : List (String × String)) :
    (Fault.of message named).Names named :=
  ⟨Detail.of message named, List.mem_cons_self, fun pair member =>
    List.mem_map.mpr ⟨pair, member, rfl⟩⟩

/-- A fault names what it is told within, however deep its cause is. -/
theorem Fault.Names.within {outer : Fault} {named : List (String × String)}
    (names : outer.Names named) (cause : Fault) : (cause.within outer).Names named := by
  obtain ⟨detail, member, holds⟩ := names
  exact ⟨detail, by simp [member], holds⟩

/-- Work that is told within other words names what these name. -/
theorem names_of_within {α : Type} {message : String} {named : List (String × String)}
    {fault : Fault} {work : Except Fault α}
    (failed : within (.of message named) work = .error fault) : fault.Names named := by
  obtain ⟨cause, -, rfl⟩ := within_error_iff.mp failed
  exact (Fault.names_of message named).within cause

/-! ### Reading -/

/-- A file that cannot be read is named. -/
theorem FileTree.names_of_readText {tree : FileTree} {path : String} {fault : Fault}
    (unread : tree.readText path = .error fault) : fault.Names [("file path", path)] := by
  unfold FileTree.readText at unread
  rcases bind_error_iff.mp unread with closed | ⟨node, -, holds⟩
  · exact names_of_within closed
  · exact names_of_within holds

namespace Settings

variable (settings : Settings) (tree : FileTree) (root : String)

/-- Where the version is declared. -/
def versionPath : String :=
  Path.join root settings.versionFile

/-- Work that has come to a directory: the version has been read, and the metadata of all candidates
before it. -/
def ReachesDirectory (directory : String) : Prop :=
  (∃ version, settings.version tree root = .ok version) ∧
    ∃ before after found,
      (settings.candidates tree root).result = .ok (before ++ directory :: after) ∧
      List.Forall₂ (Adds settings tree root) before found

/-- Work that has come to a page: its variables are known, and all pages before it are rendered. -/
def ReachesPage (context : PageContext) (name : String) : Prop :=
  settings.ContextOf tree root context ∧
    ∃ before after, settings.pages = before ++ name :: after ∧
      ∀ other ∈ before, ∃ page,
        settings.renderPage Engine.script tree root context other = .ok page

/-- Where rendering ends, and the input that is to be named. -/
inductive StopsAt : List (String × String) → Prop
  | versionUnread {fault : Fault}
      (unread : tree.readText (settings.versionPath root) = .error fault) :
      StopsAt [("file path", settings.versionPath root)]
  | versionUndeclared {content : String}
      (reads : tree.readText (settings.versionPath root) = .ok content)
      (undeclared : ∀ line ∈ Text.lines content.toList, ReleaseVersion.declared? line = none) :
      StopsAt [("file path", settings.versionPath root)]
  | noLibraries {version : ReleaseVersion} (declares : settings.version tree root = .ok version)
      (missing : tree.isDirectory (settings.libsPath root) = false) :
      StopsAt [("directory", settings.libsPath root)]
  | entryUnread {version : ReleaseVersion} {entry : ScanEntry} {fault : SystemFault}
      (declares : settings.version tree root = .ok version)
      (listed : entry ∈ tree.listing (settings.libsPath root))
      (unread : entry.isDirectory = .error fault) :
      StopsAt [("directory", settings.libsPath root)]
  /-- The metadata of a directory is no text, no document, or a document without entries. -/
  | noEntries {directory : String} {bytes : ByteArray}
      (reached : settings.ReachesDirectory tree root directory)
      (opens : tree.openNode (settings.metadataPath root directory) = .ok (.file bytes))
      (unlisted : ∀ text document entries, String.fromUTF8? bytes = some text →
        Json.parse text = .ok document → ¬ Lists document entries) :
      StopsAt [("file path", settings.metadataPath root directory)]
  /-- An entry of the metadata of a directory is none, and all before it are. -/
  | illTyped {directory text : String} {bytes : ByteArray} {document entry : Json}
      {before after : List Json} {mismatch : Json.Mismatch}
      (reached : settings.ReachesDirectory tree root directory)
      (opens : tree.openNode (settings.metadataPath root directory) = .ok (.file bytes))
      (decodes : String.fromUTF8? bytes = some text) (parses : Json.parse text = .ok document)
      (lists : Lists document (before ++ entry :: after))
      (earlier : ∀ other ∈ before, ∃ record, Metadata.schema.ofJson other = .ok record)
      (mismatched : Metadata.schema.ofJson entry = .error mismatch) :
      StopsAt [("file path", settings.metadataPath root directory),
        ("index", toString before.length)]
  | pageUnread {context : PageContext} {name : String} {fault : Fault}
      (reached : settings.ReachesPage tree root context name)
      (unread : tree.readText (Path.join root name) = .error fault) :
      StopsAt [("file path", Path.join root name)]
  | pageRejected {context : PageContext} {name source : String} {fault : Markers.MarkerFault}
      (reached : settings.ReachesPage tree root context name)
      (reads : tree.readText (Path.join root name) = .ok source)
      (rejected : (context.rules settings.encodingNames).compile source.toList = .error fault) :
      StopsAt [("file path", Path.join root name)]
  | pageFailed {context : PageContext} {name source : String} {template : List Char}
      {fault : ScriptFault}
      (reached : settings.ReachesPage tree root context name)
      (reads : tree.readText (Path.join root name) = .ok source)
      (compiles : (context.rules settings.encodingNames).compile source.toList = .ok template)
      (fails : Script.render name context.values template = .error fault) :
      StopsAt [("page", name)]

variable {settings tree root}

/-- A fault names an input that work has ended at. -/
def NamesInput (settings : Settings) (tree : FileTree) (root : String) (fault : Fault) : Prop :=
  ∃ named, settings.StopsAt tree root named ∧ fault.Names named

/-! ### The version -/

theorem namesInput_of_version {fault : Fault} (failed : settings.version tree root = .error fault) :
    settings.NamesInput tree root fault := by
  unfold Settings.version FileTree.readVersion at failed
  rcases bind_error_iff.mp failed with unread | ⟨content, reads, failed⟩
  · exact ⟨_, .versionUnread unread, FileTree.names_of_readText unread⟩
  · refine ⟨_, .versionUndeclared reads ?_, names_of_within failed⟩
    obtain ⟨cause, undeclared, -⟩ := within_error_iff.mp failed
    unfold ReleaseVersion.parse at undeclared
    split at undeclared
    · cases undeclared
    · next missing => exact List.findSome?_eq_none_iff.mp missing

/-! ### Libraries -/

theorem names_scanFault (libs name : String) (cause : SystemFault) :
    (scanFault libs name cause).Names [("directory", libs)] :=
  (Fault.names_of _ _).within _

/-- A scan that fails names the libraries' directory. -/
theorem namesInput_of_candidates {version : ReleaseVersion} {fault : Fault}
    (declares : settings.version tree root = .ok version)
    (failed : (settings.candidates tree root).result = .error fault) :
    settings.NamesInput tree root fault := by
  unfold candidates at failed
  dsimp only at failed
  split at failed
  · obtain ⟨entry, listed, cause, unread, rfl⟩ := unread_of_candidatesOf failed
    exact ⟨_, .entryUnread declares listed unread, names_scanFault ..⟩
  · next missing =>
    cases failed
    exact ⟨_, .noLibraries declares (Bool.eq_false_iff.mpr missing), Fault.names_of ..⟩

/-- Metadata that is refused is named, and so is the place of an entry that is none. -/
theorem namesInput_of_fails {directory : String} {fault : Fault}
    (reached : settings.ReachesDirectory tree root directory)
    (fails : Fails settings tree root directory fault) :
    settings.NamesInput tree root fault := by
  obtain ⟨bytes, opens, refused⟩ := fails
  cases refused with
  | notText undecoded =>
    refine ⟨_, .noEntries reached opens fun text document entries decodes => ?_,
      (Fault.names_of _ _).within _⟩
    cases undecoded.symm.trans decodes
  | notJson decodes flawed =>
    refine ⟨_, .noEntries reached opens fun text document entries decodes' parses => ?_,
      (Fault.names_of _ _).within _⟩
    cases decodes.symm.trans decodes'
    cases flawed.symm.trans parses
  | notListed decodes parses unlisted =>
    refine ⟨_, .noEntries reached opens fun text document entries decodes' parses' => ?_,
      Fault.names_of _ _⟩
    cases decodes.symm.trans decodes'
    cases parses.symm.trans parses'
    exact unlisted entries
  | notRecord decodes parses lists earlier mismatched =>
    exact ⟨_, .illTyped reached opens decodes parses lists earlier mismatched,
      (Fault.names_of _ _).within _⟩

theorem namesInput_of_catalog {version : ReleaseVersion} {fault : Fault}
    (declares : settings.version tree root = .ok version)
    (failed : (settings.catalog tree root).result = .error fault) :
    settings.NamesInput tree root fault := by
  unfold catalog at failed
  rw [Traced.bind_eq, Traced.result_andThen] at failed
  rcases bind_error_iff.mp failed with failed | ⟨metadata, -, failed⟩
  · rcases load_error_iff.mp failed with failed | first
    · exact namesInput_of_candidates declares failed
    · obtain ⟨before, directory, after, found, candidates, earlier, fails⟩ := first
      exact namesInput_of_fails ⟨⟨version, declares⟩, before, after, found, candidates, earlier⟩
        fails
  · cases (metadata.result_normalize _).symm.trans failed

/-! ### Pages -/

/-- The variables of pages are found whatever the catalog is. -/
theorem exists_context (settings : Settings) (catalog : Catalog Library)
    (version : ReleaseVersion) :
    ∃ context, (settings.context catalog version).result = .ok context := by
  have groups := Traced.result_foldlM (Classification.result_placeAll settings.categories)
    catalog.alphabetic []
  unfold Settings.context classify
  simp only [Traced.bind_eq, Traced.result_andThen, groups, Except.bind,
    PageContext.result_withUnreleased, Traced.pure_eq, Traced.result_of]
  exact ⟨_, rfl⟩

/-- A page that fails is named, or its template is. -/
theorem namesInput_of_renderPage {context : PageContext} {name : String} {fault : Fault}
    (reached : settings.ReachesPage tree root context name)
    (failed : settings.renderPage Engine.script tree root context name = .error fault) :
    settings.NamesInput tree root fault := by
  unfold renderPage at failed
  rcases bind_error_iff.mp failed with unread | ⟨source, reads, failed⟩
  · exact ⟨_, .pageUnread reached unread, FileTree.names_of_readText unread⟩
  rcases bind_error_iff.mp failed with rejected | ⟨template, compiles, failed⟩
  · obtain ⟨cause, mapped, -⟩ := within_error_iff.mp rejected
    cases compiles : (context.rules settings.encodingNames).compile source.toList with
    | ok template =>
      rw [compiles] at mapped
      cases mapped
    | error fault =>
      exact ⟨_, .pageRejected reached reads compiles, names_of_within rejected⟩
  rcases bind_error_iff.mp failed with fails | ⟨text, -, failed⟩
  · unfold Engine.script at fails
    rw [String.toList_ofList] at fails
    split at fails
    · cases fails
    · next unrendered =>
      cases fails
      have compiled := mapError_ok_iff.mp (within_ok_iff.mp compiles)
      exact ⟨_, .pageFailed reached reads compiled unrendered, (Fault.names_of _ _).within _⟩
  · cases failed

/-- **A failure names what it was at.** Rendering that fails has ended at an input, everything
before it being as it must be, and its fault names this input: the file of the version, the
libraries' directory, a metadata file with the place of an entry that is none, the template of a
page, or the page itself where the engine refuses it. -/
theorem render_names_input {settings : Settings} {tree : FileTree} {root : String} {fault : Fault}
    (failed : (settings.render Engine.script tree root).result = .error fault) :
    ∃ named, settings.StopsAt tree root named ∧ fault.Names named := by
  rw [result_render] at failed
  rcases bind_error_iff.mp failed with failed | ⟨version, declares, failed⟩
  · exact namesInput_of_version failed
  rcases bind_error_iff.mp failed with failed | ⟨catalog, loads, failed⟩
  · exact namesInput_of_catalog declares failed
  rcases bind_error_iff.mp failed with failed | ⟨context, makes, failed⟩
  · obtain ⟨context, makes⟩ := settings.exists_context catalog version
    cases makes.symm.trans failed
  · obtain ⟨before, name, after, split, earlier, fails⟩ := exists_first_of_mapM_error failed
    exact namesInput_of_renderPage ⟨⟨version, catalog, declares, loads, makes⟩, before, after,
      split, earlier⟩ fails

/-- A release of one library. -/
def oneLibrary (version metadata : ByteArray) : FileTree where
  nodes := [(["v"], .file version), (["l"], .directory), (["l", "x"], .directory),
    (["l", "x", "m"], .file metadata)]

/-- Settings in which every path is short, that of the version included. -/
def shortPaths : Settings :=
  { PageContext.shortNames with versionFile := "v", releaseNotesBase := "" }

/-- Rendering ends with the fault of the one metadata file. -/
theorem render_oneLibrary {version metadata : ByteArray} {fault : Fault}
    (declares : String.fromUTF8? version = some "constant BOOST_VERSION : 1 ;")
    (refused : Refused "l/x/m" metadata fault) :
    (shortPaths.render Engine.script (oneLibrary version metadata) "").result =
      .error fault := by
  have opensVersion : (oneLibrary version metadata).openNode (Path.join "" shortPaths.versionFile) =
      .ok (.file version) :=
    FileTree.openNode_of_walks rfl rfl (.last (by decide) rfl rfl)
  have declared : shortPaths.version (oneLibrary version metadata) "" =
      .ok (.ofText "" ['1']) :=
    version_of_text opensVersion declares parse_versionOne
  have candidates : (shortPaths.candidates (oneLibrary version metadata) "").result =
      .ok ["l/x"] := by
    cbv
  have opensMetadata : (oneLibrary version metadata).openNode
      (shortPaths.metadataPath "" "l/x") = .ok (.file metadata) :=
    FileTree.openNode_of_walks rfl rfl
      (.into (by decide) rfl (.into (by decide) rfl (.last (by decide) rfl rfl)))
  have ends : (shortPaths.load (oneLibrary version metadata) "").result = .error fault :=
    load_error_iff.mpr (.inr ⟨[], _, [], [], candidates, .nil, metadata, opensMetadata, refused⟩)
  rw [result_render]
  refine bind_error_iff.mpr (.inr ⟨_, declared, bind_error_iff.mpr (.inl ?_)⟩)
  unfold catalog
  rw [Traced.bind_eq, Traced.result_andThen]
  exact bind_error_iff.mpr (.inl ends)

/-- The second of two libraries has no key. -/
def secondUnnamed : String :=
  "[\x7b\"key\":\"a\"\x7d,\x7b\"name\":\"b\"\x7d]"

theorem refused_secondUnnamed :
    Refused "l/x/m" secondUnnamed.toUTF8 (FileTree.entryFault "l/x/m" 1 (.missingField "key")) := by
  have parses : Json.parse secondUnnamed =
      .ok (.array [.object [("key", .string "a")], .object [("name", .string "b")]]) := by
    cbv
  have reads : Metadata.schema.ofJson (.object [("key", .string "a")]) = .ok { key := "a" } := by
    cbv
  have mismatched : Metadata.schema.ofJson (.object [("name", .string "b")]) =
      .error (.missingField "key") := by
    cbv
  refine @Refused.notRecord _ _ _ _ _ [_] [] _ rfl parses (.array _) ?_ mismatched
  intro other member
  obtain rfl := List.mem_singleton.mp member
  exact ⟨_, reads⟩

/-- The fault of the second entry of a file, which has no key, names the file and the entry. -/
theorem render_names_input_secondUnnamed :
    let tree := oneLibrary "constant BOOST_VERSION : 1 ;".toUTF8 secondUnnamed.toUTF8
    let fault := FileTree.entryFault "l/x/m" 1 (.missingField "key")
    (shortPaths.render Engine.script tree "").result = .error fault ∧
      ∃ named, shortPaths.StopsAt tree "" named ∧ fault.Names named := by
  intro tree fault
  have failed : (shortPaths.render Engine.script tree "").result = .error fault :=
    render_oneLibrary rfl refused_secondUnnamed
  exact ⟨failed, render_names_input failed⟩

end Settings

end CatalogPages
