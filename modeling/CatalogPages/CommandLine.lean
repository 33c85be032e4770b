/-
**The command line.**

One run of the program on a file tree: its exit code, what it prints, the events that are let
through, and the tree afterwards.

* `CommandLine.run`: a run by its arguments;
* `CommandLine.tree_of_refusal`: arguments that are refused leave the tree alone.
-/

import CatalogPages.CommandLine.Arguments
import CatalogPages.Discovery
import CatalogPages.EventFilter.Reader

namespace CatalogPages.CommandLine

/-- What has come of a run of the program. -/
structure Report where
  exitCode : Nat
  /-- The text on standard output. -/
  printed : String
  /-- The text on standard error, after the events. -/
  complaint : String
  /-- The events that are let through. -/
  log : List Event
  tree : FileTree

/-- The filter of a run: all but traces when asked to be verbose, or else the filter that the
environment gives, or else what matters to every reader. -/
def eventFilter (verbose : Bool) (environment : Option String) : EventFilter :=
  if verbose then .downTo .debug
  else
    match environment.bind fun text => EventFilter.parse? text.toList with
    | some filter => filter
    | none => .downTo .info

/-- The report of arguments that start no run. -/
def refuse (refusal : Refusal) (tree : FileTree) : Report :=
  match refusal with
  | .help => ⟨0, refusal.message ++ "\n", "", [], tree⟩
  | _ => ⟨2, "", refusal.message ++ "\n", [], tree⟩

/-- The work of a run: the settings, and then the pages. -/
def work (arguments : Arguments) (tree : FileTree) : Outcome :=
  let delivery := if arguments.stdout then .stdout else .inPlace
  let settings := Settings.discover tree arguments.root arguments.config arguments.develop
  match settings.result with
  | .ok found =>
    let outcome := found.publish Engine.script delivery tree arguments.root
    { outcome with work := ⟨settings.events ++ outcome.work.events, outcome.work.result⟩ }
  | .error fault => ⟨tree, "", ⟨settings.events, .error fault⟩⟩

/-- A run by its arguments. -/
def start (arguments : Arguments) (environment : Option String) (tree : FileTree) : Report :=
  let outcome := work arguments tree
  let filter := eventFilter arguments.verbose environment
  let log := outcome.work.events.filter filter.admits
  match outcome.work.result with
  | .ok () => ⟨0, outcome.printed, "", log, outcome.tree⟩
  | .error fault =>
    ⟨1, outcome.printed, "error: " ++ fault.display ++ "\n", log, outcome.tree⟩

/-- A run by the texts of its arguments and the environment's filter of events. -/
def run (texts : List String) (environment : Option String) (tree : FileTree) : Report :=
  match Arguments.parse texts with
  | .ok arguments => start arguments environment tree
  | .error refusal => refuse refusal tree

/-- Arguments that are refused leave the tree alone. -/
theorem tree_of_refusal {texts : List String} {refusal : Refusal}
    (refused : Arguments.parse texts = .error refusal) (environment : Option String)
    (tree : FileTree) : (run texts environment tree).tree = tree := by
  rw [run, refused]
  cases refusal <;> rfl

end CatalogPages.CommandLine
