/-
**Files that are written over.**

A text that is written to a file changes what the file holds and nothing else. Every path therefore
leads to the file that it led to before, and texts that are written one after another come to the
same as texts that are put in place of the files that their paths led to at the start.

* `Walks`: a walk from a directory along some names that ends at a file;
* `openNode_of_walks`: a path opens the file where the walk along its names ends;
* `SameShape`: trees that differ only in what their files hold, in which paths lead to the same
  files (`SameShape.leadsTo`);
* `eq_put_of_writeText`: what is written goes to the file that the path leads to;
* `writeText_of_leadsTo`: a path that leads to a file and names no directory can be written to;
* `node?_overwrite_of_not_mem`: nothing else changes.
-/

import CatalogPages.FileTree.Access
import CatalogPages.Proofs.Success

namespace CatalogPages.FileTree

/-! ### Walks -/

/-- A walk along some names, through at most so many links, that ends at a file. -/
inductive Walks (tree : FileTree) (location : Location) (bytes : ByteArray) :
    (links : Nat) → (directory : Location) → List String → Prop
  | stop {links : Nat} (found : tree.node? location = some (.file bytes)) :
      Walks tree location bytes links location []
  | here {links : Nat} {directory : Location} {name : String} {rest : List String}
      (isHere : isHere name = true) (more : Walks tree location bytes links directory rest) :
      Walks tree location bytes links directory (name :: rest)
  | up {links : Nat} {directory : Location} {rest : List String}
      (more : Walks tree location bytes links directory.dropLast rest) :
      Walks tree location bytes links directory (".." :: rest)
  | into {links : Nat} {directory : Location} {name : String} {rest : List String}
      (isName : isHere name = false ∧ name ≠ ".." ∧ name.utf8ByteSize ≤ nameLimit)
      (enters : tree.node? (directory ++ [name]) = some .directory)
      (more : Walks tree location bytes links (directory ++ [name]) rest) :
      Walks tree location bytes links directory (name :: rest)
  | through {links : Nat} {directory : Location} {name path : String} {rest : List String}
      (isName : isHere name = false ∧ name ≠ ".." ∧ name.utf8ByteSize ≤ nameLimit)
      (linked : tree.node? (directory ++ [name]) = some (.link path))
      (more : Walks tree location bytes links (if Path.isAbsolute path then [] else directory)
        (Path.names path ++ rest)) :
      Walks tree location bytes (links + 1) directory (name :: rest)
  | last {links : Nat} {directory : Location} {name : String}
      (isName : isHere name = false ∧ name ≠ ".." ∧ name.utf8ByteSize ≤ nameLimit)
      (ends : location = directory ++ [name])
      (found : tree.node? location = some (.file bytes)) :
      Walks tree location bytes links directory [name]

variable {tree : FileTree} {location : Location} {bytes : ByteArray}

/-- Names that are followed to a file are a walk to it. -/
theorem walks_of_follow {links : Nat} {directory : Location} {names : List String}
    (leads : tree.follow links directory names = .ok (.present location (.file bytes))) :
    Walks tree location bytes links directory names := by
  fun_induction FileTree.follow tree links directory names with
  | case1 links directory node found =>
    cases leads
    exact .stop found
  | case2 => cases leads
  | case3 links directory name rest isHere ih => exact .here isHere (ih leads)
  | case4 links directory rest _ ih => exact .up (ih leads)
  | case5 => cases leads
  | case6 => cases leads
  | case7 => cases leads
  | case8 => cases leads
  | case9 links directory name rest notHere notUp fits _ enters ih =>
    exact .into ⟨Bool.eq_false_iff.mpr notHere, notUp, Nat.le_of_not_lt fits⟩ enters (ih leads)
  | case10 => cases leads
  | case11 directory name rest notHere notUp fits _ path linked links _ ih =>
    exact .through ⟨Bool.eq_false_iff.mpr notHere, notUp, Nat.le_of_not_lt fits⟩ linked (ih leads)
  | case12 links directory name notHere notUp fits _ node _ _ found =>
    obtain ⟨ends, rfl⟩ := Destination.present.inj (Except.ok.inj leads)
    rw [← ends]
    exact .last ⟨Bool.eq_false_iff.mpr notHere, notUp, Nat.le_of_not_lt fits⟩ rfl found
  | case13 => cases leads

section Steps

variable {links : Nat} {directory : Location} {name : String}
  (isName : isHere name = false ∧ name ≠ ".." ∧ name.utf8ByteSize ≤ nameLimit)

include isName

/-- A name of a directory leads into it. -/
theorem follow_into (rest : List String)
    (enters : tree.node? (directory ++ [name]) = some .directory) :
    tree.follow links directory (name :: rest) =
      tree.follow links (directory ++ [name]) rest := by
  obtain ⟨notHere, notUp, fits⟩ := isName
  rw [FileTree.follow, if_neg (Bool.eq_false_iff.mp notHere), if_neg notUp,
    if_neg (Nat.not_lt.mpr fits)]
  simp only [enters]

/-- A last name of nothing leads to where something could be made. -/
theorem follow_vacant (missing : tree.node? (directory ++ [name]) = none) :
    tree.follow links directory [name] = .ok (.vacant (directory ++ [name])) := by
  obtain ⟨notHere, notUp, fits⟩ := isName
  rw [FileTree.follow, if_neg (Bool.eq_false_iff.mp notHere), if_neg notUp,
    if_neg (Nat.not_lt.mpr fits)]
  simp only [missing, if_true]

end Steps

/-- A walk is how its names are followed. -/
theorem Walks.follow {links : Nat} {directory : Location} {names : List String}
    (walks : Walks tree location bytes links directory names) :
    tree.follow links directory names = .ok (.present location (.file bytes)) := by
  induction walks with
  | stop found => rw [FileTree.follow, found]
  | here isHere _ ih => rw [FileTree.follow, if_pos isHere, ih]
  | up _ ih =>
    rw [FileTree.follow, if_neg (by decide), if_pos rfl, ih]
  | into isName enters _ ih => rw [follow_into isName _ enters, ih]
  | through isName linked _ ih =>
    obtain ⟨notHere, notUp, fits⟩ := isName
    rw [FileTree.follow, if_neg (Bool.eq_false_iff.mp notHere), if_neg notUp,
      if_neg (Nat.not_lt.mpr fits)]
    simp only [linked, ih]
  | last isName ends found =>
    obtain ⟨notHere, notUp, fits⟩ := isName
    rw [ends] at found
    rw [FileTree.follow, if_neg (Bool.eq_false_iff.mp notHere), if_neg notUp,
      if_neg (Nat.not_lt.mpr fits)]
    simp only [found, ends, if_true]

/-- A walk ends where the file is. -/
theorem Walks.node? {links : Nat} {directory : Location} {names : List String}
    (walks : Walks tree location bytes links directory names) :
    tree.node? location = some (.file bytes) := by
  induction walks with
  | stop found => exact found
  | here _ _ ih => exact ih
  | up _ ih => exact ih
  | into _ _ _ ih => exact ih
  | through _ _ _ ih => exact ih
  | last _ _ found => exact found

/-! ### Trees of one shape -/

/-- Trees that differ only in what their files hold. -/
structure SameShape (first second : FileTree) : Prop where
  workingDirectory : second.workingDirectory = first.workingDirectory
  files : ∀ location bytes, first.node? location = some (.file bytes) →
    ∃ others, second.node? location = some (.file others)
  others : ∀ location, (∀ bytes, first.node? location ≠ some (.file bytes)) →
    second.node? location = first.node? location

theorem SameShape.refl (tree : FileTree) : SameShape tree tree where
  workingDirectory := rfl
  files _ bytes found := ⟨bytes, found⟩
  others _ _ := rfl

/-- A place that is no file is the same in both trees. -/
theorem SameShape.node?_eq {first second : FileTree} (same : SameShape first second)
    {location : Location} {node : FileNode} (found : first.node? location = some node)
    (noFile : ∀ bytes, node ≠ .file bytes) : second.node? location = some node := by
  refine (same.others location fun bytes isFile => ?_).trans found
  rw [found] at isFile
  exact noFile bytes (Option.some.inj isFile)

/-- A walk to a file is one in every tree of the same shape. -/
theorem SameShape.walks {first second : FileTree} (same : SameShape first second) {links : Nat}
    {directory : Location} {names : List String} {others : ByteArray}
    (found : second.node? location = some (.file others))
    (walks : Walks first location bytes links directory names) :
    Walks second location others links directory names := by
  induction walks with
  | stop => exact .stop found
  | here isHere _ ih => exact .here isHere ih
  | up _ ih => exact .up ih
  | into isName enters _ ih => exact .into isName (same.node?_eq enters (by simp)) ih
  | through isName linked _ ih => exact .through isName (same.node?_eq linked (by simp)) ih
  | last isName ends _ => exact .last isName ends found

/-- A path leads to the file at a location. -/
def LeadsTo (tree : FileTree) (path : String) (location : Location) : Prop :=
  ∃ bytes, tree.resolve path = .ok (.present location (.file bytes))

theorem leadsTo_iff (tree : FileTree) (path : String) (location : Location) :
    tree.LeadsTo path location ↔ checkPath path = .ok () ∧
      ∃ bytes, Walks tree location bytes linkLimit (tree.start path) (Path.names path) := by
  unfold LeadsTo resolve
  constructor
  · rintro ⟨bytes, resolved⟩
    obtain ⟨_, checked, followed⟩ := bind_ok_iff.mp resolved
    exact ⟨checked, bytes, walks_of_follow followed⟩
  · rintro ⟨checked, bytes, walks⟩
    exact ⟨bytes, bind_ok_iff.mpr ⟨(), checked, walks.follow⟩⟩

/-- A path whose names are a walk opens the file where the walk ends. -/
theorem openNode_of_walks {path : String} {names : List String}
    (checked : checkPath path = .ok ()) (isNames : Path.names path = names)
    (walks : Walks tree location bytes linkLimit (tree.start path) names) :
    tree.openNode path = .ok (.file bytes) := by
  have resolved : tree.resolve path = .ok (.present location (.file bytes)) :=
    bind_ok_iff.mpr ⟨(), checked, isNames ▸ walks.follow⟩
  rw [openNode, resolved]
  rfl

/-- Where a path leads to, there is a file. -/
theorem LeadsTo.node? {path : String} (leads : tree.LeadsTo path location) :
    ∃ bytes, tree.node? location = some (.file bytes) := by
  obtain ⟨-, bytes, walks⟩ := (leadsTo_iff ..).mp leads
  exact ⟨bytes, walks.node?⟩

/-- **A path leads to the same file in all trees of one shape.** -/
theorem SameShape.leadsTo {first second : FileTree} (same : SameShape first second)
    {path : String} (leads : first.LeadsTo path location) : second.LeadsTo path location := by
  obtain ⟨checked, bytes, walks⟩ := (leadsTo_iff ..).mp leads
  obtain ⟨others, found⟩ := same.files location bytes walks.node?
  have start : second.start path = first.start path := by
    unfold FileTree.start
    rw [same.workingDirectory]
  refine (leadsTo_iff ..).mpr ⟨checked, others, ?_⟩
  rw [start]
  exact same.walks found walks

/-! ### One file -/

theorem node?_put_of_ne {place other : Location} (differ : other ≠ place) (tree : FileTree)
    (node : FileNode) : (tree.put place node).node? other = tree.node? other := by
  unfold FileTree.node? put
  rw [lookup_putNode, if_neg differ]

/-- A file is not at the top, where there is a directory. -/
theorem ne_top_of_file (found : tree.node? location = some (.file bytes)) : location ≠ [] := by
  rintro rfl
  cases found

/-- A tree keeps its shape when a file is exchanged. -/
theorem SameShape.put {first second : FileTree} (same : SameShape first second)
    (found : second.node? location = some (.file bytes)) (others : ByteArray) :
    SameShape first (second.put location (.file others)) where
  workingDirectory := same.workingDirectory
  files place held isFile := by
    rw [node?_put _ _ _ _ (ne_top_of_file found)]
    split
    · exact ⟨others, rfl⟩
    · exact same.files place held isFile
  others place noFile := by
    have differ : place ≠ location := by
      rintro rfl
      rw [same.others place noFile] at found
      exact noFile bytes found
    rw [node?_put_of_ne differ]
    exact same.others place noFile

theorem putNode_putNode (location : Location) (first second : FileNode)
    (nodes : List (Location × FileNode)) :
    putNode location second (putNode location first nodes) = putNode location second nodes := by
  induction nodes with
  | nil => simp only [putNode, if_true]
  | cons entry rest ih =>
    by_cases here : entry.1 = location
    · simp only [putNode, if_pos here, if_true]
    · simp only [putNode, if_neg here, ih]

/-- Only what is put last stays. -/
theorem put_put (tree : FileTree) (location : Location) (first second : FileNode) :
    (tree.put location first).put location second = tree.put location second :=
  congrArg (fun nodes => { tree with nodes }) (putNode_putNode location first second tree.nodes)

/-- A path that may be made a file leads to where it led to. One that ends in a slash names a
directory. -/
theorem creationTarget_eq_or (tree : FileTree) (path : String) :
    tree.creationTarget path = tree.resolve path ∨
      ∀ destination, tree.creationTarget path = .ok destination →
        destination = .vacantDirectory := by
  unfold creationTarget
  split
  · next more _ =>
    refine .inr fun destination target => ?_
    obtain ⟨found, above, target⟩ := bind_ok_iff.mp target
    cases found with
    | present place node =>
      cases node with
      | directory =>
        cases target
        rfl
      | _ => cases target
    | vacant place => cases target
    | vacantDirectory => cases target
  · exact .inl rfl

/-- What is made at a path that leads to a file is an empty file in its place. -/
theorem eq_of_create {path : String} {opened : FileTree} {place : Location}
    (leads : tree.LeadsTo path location) (created : tree.create path = .ok (opened, place)) :
    place = location ∧ opened = tree.put location (.file ByteArray.empty) := by
  obtain ⟨bytes, resolved⟩ := leads
  unfold create at created
  obtain ⟨_, checked, created⟩ := bind_ok_iff.mp created
  obtain ⟨destination, target, created⟩ := bind_ok_iff.mp created
  rcases tree.creationTarget_eq_or path with same | directory
  · rw [same, resolved] at target
    cases target
    cases created
    exact ⟨rfl, rfl⟩
  · obtain rfl := directory destination target
    cases created

/-- A file that has been emptied is filled. -/
theorem fill_put_empty (found : tree.node? location = some (.file bytes)) (text : String) :
    (tree.put location (.file ByteArray.empty)).fill location text =
      .ok (tree.put location (.file text.toUTF8)) := by
  unfold fill
  rw [node?_put _ _ _ _ (ne_top_of_file found), if_pos rfl]
  show Except.ok ((tree.put location _).put location _) = _
  rw [put_put]

/-- **What is written goes to the file that the path leads to.** -/
theorem eq_put_of_writeText {path text : String} {written : FileTree}
    (leads : tree.LeadsTo path location) (writes : tree.writeText path text = .ok written) :
    written = tree.put location (.file text.toUTF8) := by
  obtain ⟨held, found⟩ := leads.node?
  unfold writeText at writes
  obtain ⟨⟨opened, place⟩, creates, fills⟩ := bind_ok_iff.mp writes
  obtain ⟨rfl, rfl⟩ := eq_of_create leads (mapError_ok_iff.mp (within_ok_iff.mp creates))
  have filled := mapError_ok_iff.mp (within_ok_iff.mp fills)
  rw [fill_put_empty found] at filled
  exact (Except.ok.inj filled).symm

/-- A file can be written, if its path does not name a directory. -/
theorem writeText_of_leadsTo {path : String} (leads : tree.LeadsTo path location)
    (noSlash : (Path.names path).getLast? ≠ some "") (text : String) :
    tree.writeText path text = .ok (tree.put location (.file text.toUTF8)) := by
  obtain ⟨held, found⟩ := leads.node?
  obtain ⟨checked, -⟩ := (leadsTo_iff ..).mp leads
  have target : tree.creationTarget path = tree.resolve path := by
    unfold creationTarget
    split
    · next more reversed =>
      refine absurd ?_ noSlash
      rw [List.getLast?_eq_head?_reverse, reversed, List.head?_cons]
    · rfl
  obtain ⟨bytes, resolved⟩ := leads
  have created : tree.create path =
      .ok (tree.put location (.file ByteArray.empty), location) := by
    unfold create
    rw [checked, target, resolved]
    rfl
  have filled := fill_put_empty found text
  unfold writeText
  exact bind_ok_iff.mpr ⟨_, within_ok_iff.mpr (mapError_ok_iff.mpr created),
    within_ok_iff.mpr (mapError_ok_iff.mpr filled)⟩

/-! ### Files one after another -/

/-- A tree with texts in place of the files at some locations, one after another. -/
def overwrite (tree : FileTree) (texts : List (Location × String)) : FileTree :=
  texts.foldl (fun tree (location, text) => tree.put location (.file text.toUTF8)) tree

/-- **Nothing else changes.** -/
theorem node?_overwrite_of_not_mem {texts : List (Location × String)} :
    ∀ {tree : FileTree}, location ∉ texts.map Prod.fst →
      (tree.overwrite texts).node? location = tree.node? location := by
  induction texts with
  | nil => exact fun _ => rfl
  | cons first texts ih =>
    intro tree absent
    rw [List.map_cons, List.mem_cons, not_or] at absent
    show ((tree.put first.1 (.file first.2.toUTF8)).overwrite texts).node? location = _
    rw [ih absent.2, node?_put_of_ne absent.1]

end CatalogPages.FileTree
