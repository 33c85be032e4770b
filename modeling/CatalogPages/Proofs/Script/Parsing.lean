/-
**How code is parsed.**

The code of a template in pieces is an output of a name, the head of a loop, an assignment to a
name, or the end of a loop. Each of these is parsed wherever few enough blocks are open.

* `Yields`: what a parser takes from the front of tokens;
* `Path.expr`, `yields_expression`: a name, and what it holds under another;
* `add_output`, `add_loop`, `add_assign`, `add_endLoop`: what a piece of code does with what has
  been read.
-/

import CatalogPages.Proofs.Script.Pieces
import CatalogPages.Script.Template

namespace CatalogPages.Script

/-! ### Parsers in sequence -/

/-- A parser takes tokens from the front, and makes a value of them. -/
def Yields {α : Type} (parser : Parser α) (tokens : List Token) (value : α)
    (rest : List Token) : Prop :=
  parser.run tokens = .ok (value, rest)

section Levels

variable {α β : Type} {tokens rest after : List Token}

theorem Yields.bind {parser : Parser α} {next : α → Parser β} {value : α} {result : β}
    (first : Yields parser tokens value rest) (second : Yields (next value) rest result after) :
    Yields (parser >>= next) tokens result after := by
  unfold Yields at *
  rw [StateT.run_bind, first]
  exact second

/-- A step that is repeated until it stops may stop at once. -/
theorem grow_of_none {step : α → Parser (Option α)} {value : α}
    (stops : Yields (step value) tokens none tokens) :
    Yields (grow step value) tokens value tokens := by
  have started : Yields (growSteps step (tokens.length + 1) value) tokens value tokens :=
    stops.bind rfl
  exact started

theorem acceptWord_of_ne {word other : String} (differ : word ≠ other) (rest : List Token) :
    Yields (acceptWord other) (.name word :: rest) false (.name word :: rest) := by
  have tested : Yields (if word = other then (do set rest; return true) else return false)
      (.name word :: rest) false (.name word :: rest) := by
    rw [if_neg differ]
    rfl
  exact tested

/-! ### Levels of operators, where no operator comes -/

variable {operand : Parser Expr} {value : Expr}

theorem leftLevel_of_end (ops : List (String × BinaryOp)) (reads : Yields operand tokens value []) :
    Yields (leftLevel ops operand) tokens value [] :=
  reads.bind (grow_of_none rfl)

theorem wordLevel_of_end (word : String) (join : Expr → Expr → Expr)
    (reads : Yields operand tokens value []) :
    Yields (wordLevel word join operand) tokens value [] :=
  reads.bind (grow_of_none rfl)

theorem comparisonLevel_of_end (reads : Yields operand tokens value []) :
    Yields (comparisonLevel operand) tokens value [] := by
  refine reads.bind (Yields.bind (grow_of_none ?_) rfl)
  rfl

theorem conditionalSteps_of_end (steps : Nat) (reads : Yields operand tokens value []) :
    Yields (conditionalSteps operand (steps + 1)) tokens value [] :=
  reads.bind (grow_of_none rfl)

theorem countNegations {word : String} (free : word ≠ "not") (rest : List Token) :
    Yields (countWhile (acceptWord "not")) (.name word :: rest) 0 (.name word :: rest) :=
  grow_of_none ((acceptWord_of_ne free rest).bind rfl)

/-- All levels of operators, over a value that starts with a name. -/
theorem operatorLevels_of_end {word : String} (free : word ≠ "not")
    (reads : Yields operand (.name word :: rest) value []) :
    Yields (operatorLevels operand) (.name word :: rest) value [] := by
  have sums := leftLevel_of_end [("+", .add), ("-", .subtract)]
    (leftLevel_of_end [("~", .concat)]
      (leftLevel_of_end [("*", .multiply), ("/", .divide), ("//", .floorDivide), ("%", .remainder)]
        (leftLevel_of_end [("**", .power)] reads)))
  refine wordLevel_of_end _ _ (wordLevel_of_end _ _ ?_)
  exact (countNegations free rest).bind ((comparisonLevel_of_end sums).bind rfl)

end Levels

/-! ### Paths -/

/-- The expression of a path. -/
def Path.expr (path : Path) : Expr :=
  match path.member with
  | none => .variable path.owner
  | some member => .attribute (.variable path.owner) member

theorem wordValue_of_free {word : String} (free : word ∉ constantWords) :
    wordValue word = .variable word := by
  simp only [constantWords, List.mem_cons, List.not_mem_nil, or_false, not_or] at free
  simp [wordValue, free]

theorem yields_primary (depth : Nat) {word : String} (free : word ∉ constantWords)
    (rest : List Token) :
    Yields (primary (depth + 1)) (.name word :: rest) (.variable word) rest := by
  rw [← wordValue_of_free free]
  rfl

/-- No sign stands before a name. -/
theorem countSigns (word : String) (rest : List Token) :
    Yields (countWhile (acceptMark "-")) (.name word :: rest) 0 (.name word :: rest) := by
  refine grow_of_none ?_
  rfl

theorem signedSteps_of_name {signed other : Parser Expr} {word : String} {value : Expr}
    (steps : Nat) (reads : Yields signed [.name word] value []) :
    Yields (signedSteps signed other (steps + 1)) [.name word] value [] := by
  have start : Yields (signedValue signed) [.name word] value [] :=
    (countSigns word []).bind (reads.bind rfl)
  refine start.bind (Yields.bind (grow_of_none ?_) (grow_of_none ?_))
  · rfl
  · rfl

theorem signedSteps_of_member {signed other : Parser Expr} {word member : String} {value : Expr}
    (steps : Nat)
    (reads : Yields signed [.name word, .symbol ".", .name member] value
      [.symbol ".", .name member]) :
    Yields (signedSteps signed other (steps + 1)) [.name word, .symbol ".", .name member]
      (.attribute value member) [] := by
  have start : Yields (signedValue signed) [.name word, .symbol ".", .name member] value
      [.symbol ".", .name member] := (countSigns word _).bind (reads.bind rfl)
  have point : Yields (postfixes other (operatorLevels (signedSteps signed other steps)) value)
      [.symbol ".", .name member] (.attribute value member) [] := rfl
  refine start.bind (point.bind (grow_of_none ?_))
  rfl

/-- The level of signs reads a path. -/
theorem yields_signed (depth : Nat) (other : Parser Expr) {path : Path}
    (free : path.owner ∉ constantWords) :
    Yields (signedOver (primary (depth + 1)) other) path.tokens path.expr [] := by
  obtain ⟨owner, member⟩ := path
  cases member with
  | none =>
    exact Yields.bind rfl (signedSteps_of_name _ (yields_primary depth free []))
  | some member =>
    exact Yields.bind rfl (signedSteps_of_member _ (yields_primary depth free _))

theorem yields_plainExpression (depth : Nat) {path : Path} (free : path.owner ∉ constantWords) :
    Yields (plainExpression (depth + 1)) path.tokens path.expr [] := by
  have signed := yields_signed depth (expression (depth + 1)) free
  have other : path.owner ≠ "not" := by
    rintro same
    exact free (same ▸ by simp [constantWords])
  obtain ⟨owner, member⟩ := path
  cases member with
  | none => exact operatorLevels_of_end other signed
  | some member => exact operatorLevels_of_end other signed

theorem yields_expression (depth : Nat) {path : Path} (free : path.owner ∉ constantWords) :
    Yields (expression (depth + 2)) path.tokens path.expr [] :=
  Yields.bind rfl (conditionalSteps_of_end _ (yields_plainExpression depth free))

/-- A single value is no list. -/
theorem tupleOf_of_end {operand : Parser Expr} {tokens : List Token} {value : Expr}
    (reads : Yields operand tokens value []) : Yields (tupleOf operand) tokens value [] :=
  reads.bind rfl

/-! ### Statements -/

/-- The head of a loop over a path. -/
def loopOver (item : String) (source : Path) : LoopHead :=
  { target := .name item, source := source.expr, condition := none, recursive := false }

/-- A name that can be given a value. -/
def Assignable (name : String) : Prop :=
  name ∉ reservedNames ∧ name ≠ "in"

instance (name : String) : Decidable (Assignable name) :=
  inferInstanceAs (Decidable (_ ∧ _))

theorem yields_targetName {name : String} (assignable : Assignable name) (rest : List Token) :
    Yields targetName (.name name :: rest) name rest := by
  have other : ¬ reservedNames.contains name = true := by simpa using assignable.1
  have kept : Yields (if reservedNames.contains name = true then
      (throw .malformed >>= fun _ : PUnit => return name) else return name) rest name rest := by
    rw [if_neg other]
    rfl
  exact Yields.bind rfl kept

theorem atTargetsEnd_of_name {name : String} (assignable : Assignable name) (rest : List Token) :
    Yields atTargetsEnd (.name name :: rest) false (.name name :: rest) := by
  have other : (name == "in") = false := by simpa using assignable.2
  show Except.ok (name == "in", _) = _
  rw [other]

theorem yields_targets {item : String} (assignable : Assignable item) (rest : List Token) :
    Yields targets (.name item :: .name "in" :: rest) (.name item) (.name "in" :: rest) := by
  have one : Yields (do
      if ← acceptMark "(" then
        let inner ← targetsSteps (rest.length + 2)
        expectMark ")"
        return inner
      else return .name (← targetName)) (.name item :: .name "in" :: rest) (Target.name item)
      (.name "in" :: rest) :=
    Yields.bind rfl ((yields_targetName assignable _).bind rfl)
  exact Yields.bind rfl ((atTargetsEnd_of_name assignable _).bind (one.bind rfl))

/-- **The head of a loop** is parsed up to the end of its code. -/
theorem yields_loopHead (depth : Nat) {item : String} {source : Path}
    (assignable : Assignable item) (free : source.owner ∉ constantWords) :
    Yields (loopHead (depth + 1)) (.name item :: .name "in" :: source.tokens) (loopOver item source)
      [] := by
  have passed : Yields (expectWord "in") (.name "in" :: source.tokens) () source.tokens := rfl
  exact (yields_targets assignable _).bind
    (passed.bind ((tupleOf_of_end (yields_plainExpression depth free)).bind rfl))

theorem yields_openTargets {name : String} (assignable : Assignable name) (rest : List Token) :
    Yields openTargets (.name name :: .symbol "=" :: rest) (.name name) (.symbol "=" :: rest) := by
  have dotted : Yields dottedTarget (.name name :: .symbol "=" :: rest) (.name name)
      (.symbol "=" :: rest) := by
    refine (yields_targetName assignable _).bind (Yields.bind (grow_of_none ?_) ?_)
    · rfl
    · rfl
  have one : Yields (do if ← acceptMark "(" then targetsInBrackets else dottedTarget)
      (.name name :: .symbol "=" :: rest) (.name name) (.symbol "=" :: rest) :=
    Yields.bind rfl dotted
  exact Yields.bind rfl ((atTargetsEnd_of_name assignable _).bind (one.bind rfl))

/-- **An assignment** is parsed up to the end of its code. -/
theorem yields_assignment (depth : Nat) {name : String} {source : Path} (reading : Reading)
    (assignable : Assignable name) (free : source.owner ∉ constantWords) :
    Yields (assignment (depth + 2) reading) (.name name :: .symbol "=" :: source.tokens)
      (reading.push (.assign (.name name) source.expr)) [] := by
  have passed : Yields (expectMark "=") (.symbol "=" :: source.tokens) () source.tokens := rfl
  have value : Yields (do return reading.push (.assign (.name name)
      (← tupleOf (expression (depth + 2))))) source.tokens
      (reading.push (.assign (.name name) source.expr)) [] :=
    (tupleOf_of_end (yields_expression depth free)).bind rfl
  exact Yields.bind rfl ((yields_openTargets assignable _).bind
    (Yields.bind rfl (Yields.bind rfl (passed.bind value))))

/-! ### What code does with what has been read -/

/-- All open blocks are loops. -/
def OpenLoops (stack : List Frame) : Prop :=
  ∀ frame ∈ stack, ∃ head, frame.block = .loop head

/-- No loop is closed by a word that opens something. -/
theorem closing?_of_openLoops {reading : Reading} (loops : OpenLoops reading.stack) {word : String}
    (other : word ≠ "else" ∧ word ≠ "endfor") (levels : Nat) :
    (reading.stack.head?.bind fun frame => closing? frame.block word levels reading) = none := by
  cases stack : reading.stack with
  | nil => rfl
  | cons frame stack' =>
    obtain ⟨head, isLoop⟩ := loops frame (by simp [stack])
    show closing? frame.block word levels reading = none
    rw [isLoop]
    unfold closing?
    split <;> simp_all

/-- A statement that opens something, in as many levels as are left. -/
theorem yields_statement {reading result : Reading} (loops : OpenLoops reading.stack)
    {word : String} (other : word ≠ "else" ∧ word ≠ "endfor") {levels : Nat}
    (left : nestingLimit - reading.stack.length = levels + 1) {tokens : List Token}
    (opens : Yields (opening word levels reading) tokens result []) :
    Yields (statement word reading) tokens result [] := by
  unfold statement
  simp only [closing?_of_openLoops loops other, left]
  exact opens

/-- Code of which nothing is left. -/
theorem wholeCode_of_yields {α : Type} {parser : Parser α} {tokens : List Token} {value : α}
    (reads : Yields parser tokens value []) : wholeCode parser tokens = .ok value := by
  have whole : Yields (do
      let result ← parser
      if ← atEnd then return result else unexpected) tokens value [] := reads.bind rfl
  unfold wholeCode
  rw [whole]

theorem add_statement {reading result : Reading} {word : String} {tokens : List Token}
    (reads : Yields (statement word reading) tokens result []) :
    reading.add (.statement (.name word :: tokens)) = .ok result :=
  wholeCode_of_yields (Yields.bind rfl reads)

/-- The names of the code stand for what they are to stand for. -/
def Code.Free : Code → Prop
  | output name => String.ofList name ∉ constantWords
  | loop item source => Assignable item ∧ source.owner ∉ constantWords
  | assign name source => Assignable name ∧ source.owner ∉ constantWords
  | endLoop => True

instance : (code : Code) → Decidable code.Free
  | .output name => inferInstanceAs (Decidable (String.ofList name ∉ constantWords))
  | .loop item source =>
    inferInstanceAs (Decidable (Assignable item ∧ source.owner ∉ constantWords))
  | .assign name source =>
    inferInstanceAs (Decidable (Assignable name ∧ source.owner ∉ constantWords))
  | .endLoop => inferInstanceAs (Decidable True)

theorem add_output {name : List Char} (free : (Code.output name).Free) {reading : Reading}
    {depth : Nat} (left : nestingLimit - reading.stack.length = depth + 2) :
    reading.add (Code.output name).part =
      .ok (reading.push (.output (.variable (String.ofList name)))) := by
  have name : Yields (expression (depth + 2)) (Path.tokens ⟨String.ofList name, none⟩)
      (.variable (String.ofList name)) [] := yields_expression depth free
  have value := wholeCode_of_yields (tupleOf_of_end name)
  show (wholeCode (tupleOf (expression (nestingLimit - reading.stack.length))) _ >>= _) = _
  rw [left]
  exact congrArg (· >>= fun value => .ok (reading.push (.output value))) value

theorem add_loop {item : String} {source : Path} (free : (Code.loop item source).Free)
    {reading : Reading} (loops : OpenLoops reading.stack) {depth : Nat}
    (left : nestingLimit - reading.stack.length = depth + 2) :
    reading.add (Code.loop item source).part =
      .ok (reading.openBlock (.loop (loopOver item source))) := by
  refine add_statement (yields_statement loops (by decide) left ?_)
  exact (yields_loopHead depth free.1 free.2).bind rfl

theorem add_assign {name : String} {source : Path} (free : (Code.assign name source).Free)
    {reading : Reading} (loops : OpenLoops reading.stack) {depth : Nat}
    (left : nestingLimit - reading.stack.length = depth + 3) :
    reading.add (Code.assign name source).part =
      .ok (reading.push (.assign (.name name) source.expr)) :=
  add_statement (yields_statement loops (by decide) left
    (yields_assignment depth reading free.1 free.2))

theorem add_endLoop {reading : Reading} {head : LoopHead} {before : List Node}
    {stack : List Frame} (innermost : reading.stack = ⟨.loop head, before⟩ :: stack) :
    reading.add Code.endLoop.part =
      .ok { reading with done := .loop head reading.done.reverse [] :: before, stack } := by
  refine add_statement ?_
  unfold statement
  simp only [innermost, List.head?_cons, Option.bind_some, closing?]
  rw [Reading.closeBlock, innermost]
  rfl

/-! ### Where no level is left -/

/-- A parser fails at the front of tokens. -/
def Refuses {α : Type} (parser : Parser α) (tokens : List Token) (fault : ScriptFault) : Prop :=
  parser.run tokens = .error fault

section Refusals

variable {α β : Type} {tokens rest : List Token} {fault : ScriptFault}

theorem Refuses.bind {parser : Parser α} (refuses : Refuses parser tokens fault)
    (next : α → Parser β) : Refuses (parser >>= next) tokens fault := by
  unfold Refuses at *
  rw [StateT.run_bind, refuses]
  rfl

theorem Yields.bind_refuses {parser : Parser α} {next : α → Parser β} {value : α}
    (first : Yields parser tokens value rest) (refuses : Refuses (next value) rest fault) :
    Refuses (parser >>= next) tokens fault := by
  unfold Yields Refuses at *
  rw [StateT.run_bind, first]
  exact refuses

theorem wholeCode_of_refuses {parser : Parser α} (refuses : Refuses parser tokens fault) :
    wholeCode parser tokens = .error fault := by
  have whole : Refuses (do
      let result ← parser
      if ← atEnd then return result else unexpected) tokens fault := refuses.bind _
  unfold wholeCode
  rw [whole]

/-- The levels of operators fail where their operand does. -/
theorem operatorLevels_refuses {operand : Parser Expr} {word : String} (free : word ≠ "not")
    (refuses : Refuses operand (.name word :: rest) fault) :
    Refuses (operatorLevels operand) (.name word :: rest) fault := by
  have powers : Refuses (leftLevel [("**", .power)] operand) _ fault := refuses.bind _
  have products : Refuses (leftLevel [("*", .multiply), ("/", .divide), ("//", .floorDivide),
      ("%", .remainder)] (leftLevel [("**", .power)] operand)) _ fault := powers.bind _
  have concats : Refuses (leftLevel [("~", .concat)] _) _ fault := products.bind _
  have sums : Refuses (leftLevel [("+", .add), ("-", .subtract)] _) _ fault := concats.bind _
  have comparisons : Refuses (comparisonLevel _) _ fault := sums.bind _
  refine Refuses.bind (Refuses.bind ?_ _) _
  exact (countNegations free rest).bind_refuses (Refuses.bind comparisons _)

end Refusals

/-- A path is no expression on the last level. -/
theorem expression_one_refuses {path : Path} (free : path.owner ∉ constantWords) :
    Refuses (expression 1) path.tokens .malformed := by
  have other : path.owner ≠ "not" := by
    rintro same
    exact free (same ▸ by simp [constantWords])
  obtain ⟨owner, member⟩ := path
  have ends (rest : List Token) : Refuses (primary 0) (.name owner :: rest) .malformed := rfl
  have signed (rest : List Token) (steps : Nat) :
      Refuses (signedSteps (primary 0) (expression 0) (steps + 1)) (.name owner :: rest)
        .malformed :=
    Refuses.bind ((countSigns owner rest).bind_refuses (Refuses.bind (ends rest) _)) _
  have levels (rest : List Token) :
      Refuses (expression 1) (.name owner :: rest) .malformed := by
    have signs : Refuses (signedOver (primary 0) (expression 0)) (.name owner :: rest) .malformed :=
      Yields.bind_refuses rfl (signed rest _)
    exact Yields.bind_refuses rfl (Refuses.bind (operatorLevels_refuses other signs) _)
  cases member with
  | none => exact levels []
  | some member => exact levels _

/-- **An assignment needs three levels**: with two that are left it is refused. -/
theorem add_assign_of_full {name : String} {source : Path}
    (free : (Code.assign name source).Free) {reading : Reading} (loops : OpenLoops reading.stack)
    (left : nestingLimit - reading.stack.length = 2) :
    reading.add (Code.assign name source).part = .error .malformed := by
  have passed : Yields (expectMark "=") (.symbol "=" :: source.tokens) () source.tokens := rfl
  have assigns : Refuses (assignment 1 reading) (.name name :: .symbol "=" :: source.tokens)
      .malformed := by
    refine Yields.bind_refuses rfl ((yields_openTargets free.1 _).bind_refuses
      (Yields.bind_refuses rfl (Yields.bind_refuses rfl (passed.bind_refuses ?_))))
    exact Refuses.bind (Refuses.bind (expression_one_refuses free.2) _) _
  have states : Refuses (statement "set" reading) (.name name :: .symbol "=" :: source.tokens)
      .malformed := by
    have none : (reading.stack.head?.bind fun frame => closing? frame.block "set" 2 reading) =
        none := closing?_of_openLoops loops (by decide) 2
    unfold statement
    simp only [left, none]
    exact assigns
  have word : Yields anyName (.name "set" :: .name name :: .symbol "=" :: source.tokens) "set"
      (.name name :: .symbol "=" :: source.tokens) := rfl
  exact wholeCode_of_refuses (word.bind_refuses states)

end CatalogPages.Script
