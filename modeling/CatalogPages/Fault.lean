/-
**Faults.**

A fault is a chain of details, outermost first. Each detail has a message and parameters, some of
them named.

* `Fault.within`: the fault as the innermost cause of another;
* `Fault.display`: the lines of every detail, four spaces deeper at each step inward.
-/

import CatalogPages.Text.Lines

namespace CatalogPages

/-- A value that a detail names, under a key or on its own. -/
structure Parameter where
  key : Option String
  value : String
  deriving DecidableEq, Repr

/-- One message of a fault, with its parameters. -/
structure Detail where
  message : String
  parameters : List Parameter := []
  deriving DecidableEq, Repr, Inhabited

/-- A detail and, from the outside in, the details that caused it. -/
structure Fault where
  outermost : Detail
  inner : List Detail := []
  deriving DecidableEq, Repr, Inhabited

/-- A detail whose parameters all have keys. -/
def Detail.of (message : String) (parameters : List (String × String)) : Detail :=
  ⟨message, parameters.map fun (key, value) => ⟨some key, value⟩⟩

/-- A fault of one detail whose parameters all have keys. -/
def Fault.of (message : String) (parameters : List (String × String) := []) : Fault :=
  ⟨Detail.of message parameters, []⟩

/-- A detail that names the texts of the errors behind it. -/
def Detail.withSources (message : String) (sources : List String) : Detail :=
  ⟨message, sources.map fun source => ⟨none, source⟩⟩

/-- The details of a fault, outermost first. -/
def Fault.details (fault : Fault) : List Detail :=
  fault.outermost :: fault.inner

/-- The message of the outermost detail. -/
def Fault.message (fault : Fault) : String :=
  fault.outermost.message

/-- Makes a fault the innermost cause of another. -/
def Fault.within (cause outer : Fault) : Fault :=
  ⟨outer.outermost, outer.inner ++ cause.details⟩

/-- Names the circumstances of a result's fault. A success is kept. -/
def within (outer : Fault) : Except Fault α → Except Fault α :=
  Except.mapError fun cause => cause.within outer

/-- One line of a display, indented; line feeds in the text keep the indentation. -/
def displayLine (width : Nat) (text : List Char) : List Char :=
  List.replicate width ' ' ++ text ++ ['\n']

/-- A parameter as its key and value, or its value alone. -/
def Parameter.display (width : Nat) (parameter : Parameter) : List Char :=
  let value := Text.indentLines width parameter.value.toList
  match parameter.key with
  | some key => displayLine width (key.toList ++ [':', ' '] ++ value)
  | none => displayLine width value

/-- The lines of a detail, indented. -/
def Detail.display (width : Nat) (detail : Detail) : List Char :=
  displayLine width (Text.indentLines width detail.message.toList) ++
    detail.parameters.flatMap (Parameter.display width)

/-- The lines of a chain of details that starts at a depth. -/
def displayChain (depth : Nat) : List Detail → List Char
  | [] => []
  | detail :: causes => detail.display (4 * depth) ++ displayChain (depth + 1) causes

/-- The lines of a fault. -/
def Fault.display (fault : Fault) : String :=
  String.ofList (displayChain 0 fault.details)

@[simp] theorem Fault.details_within (cause outer : Fault) :
    (cause.within outer).details = outer.details ++ cause.details := rfl

@[simp] theorem Fault.message_within (cause outer : Fault) :
    (cause.within outer).message = outer.message := rfl

/-- The chain of a longer list of details continues at the depth where the first part ends. -/
theorem displayChain_append (depth : Nat) (outer inner : List Detail) :
    displayChain depth (outer ++ inner) =
      displayChain depth outer ++ displayChain (depth + outer.length) inner := by
  induction outer generalizing depth with
  | nil => simp [displayChain]
  | cons detail rest ih => simp [displayChain, ih, Nat.add_assoc, Nat.add_comm 1]

end CatalogPages
