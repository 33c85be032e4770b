/-
**Templates in pieces.**

A template that is made of texts, outputs, loops and assignments is cut into just these, if no text
holds a delimiter or reaches into one.

* `Code`, `Piece`: what such a template is made of;
* `Code.reads`: its code is cut into tokens;
* `assemble`: texts that meet are one part;
* `parts_write`: the parts of the template.
-/

import CatalogPages.Proofs.Script.Words

namespace CatalogPages.Script

/-! ### Pieces -/

/-- A name, or what it holds under another name. -/
structure Path where
  owner : String
  member : Option String := none
  deriving DecidableEq, Repr

/-- What stands in a template between delimiters. -/
inductive Code where
  | output (name : List Char)
  | loop (item : String) (source : Path)
  | assign (name : String) (source : Path)
  | endLoop
  deriving DecidableEq, Repr

/-- A piece of a template. -/
inductive Piece where
  | text (text : List Char)
  | code (code : Code)
  deriving DecidableEq, Repr

/-- What a delimiter starts with. -/
def Delimiter.opening : Delimiter → List Char
  | .output => ['\x7b', '\x7b']
  | .statement => ['\x7b', '%']
  | .comment => ['\x7b', '#']

def Path.text (path : Path) : List Char :=
  match path.member with
  | none => path.owner.toList
  | some member => path.owner.toList ++ '.' :: member.toList

def Path.tokens (path : Path) : List Token :=
  match path.member with
  | none => [.name path.owner]
  | some member => [.name path.owner, .symbol ".", .name member]

/-- The names of a path can be read. -/
def Path.Named (path : Path) : Prop :=
  IsWord path.owner.toList ∧ ∀ member ∈ path.member, IsWord member.toList

instance (path : Path) : Decidable path.Named :=
  decidable_of_iff (IsWord path.owner.toList ∧
      path.member.all (fun member => decide (IsWord member.toList)) = true)
    (by simp [Path.Named, Option.all_eq_true])

namespace Code

def kind : Code → Delimiter
  | output _ => .output
  | loop .. | assign .. | endLoop => .statement

/-- The code between its delimiters. -/
def inner : Code → List Char
  | output name => name
  | loop item source =>
    ' ' :: ("for".toList ++ ' ' :: (item.toList ++ ' ' :: ("in".toList ++ ' ' ::
      (source.text ++ [' ']))))
  | assign name source =>
    ' ' :: ("set".toList ++ ' ' :: (name.toList ++ ' ' :: '=' :: ' ' :: (source.text ++ [' '])))
  | endLoop => ' ' :: ("endfor".toList ++ [' '])

def write (code : Code) : List Char :=
  code.kind.opening ++ (code.inner ++ code.kind.closing)

def tokens : Code → List Token
  | output name => [.name (String.ofList name)]
  | loop item source => .name "for" :: .name item :: .name "in" :: source.tokens
  | assign name source => .name "set" :: .name name :: .symbol "=" :: source.tokens
  | endLoop => [.name "endfor"]

def part (code : Code) : Part :=
  match code with
  | output _ => .output code.tokens
  | loop .. | assign .. | endLoop => .statement code.tokens

/-- The names of the code can be read. -/
def Named : Code → Prop
  | output name => IsWord name
  | loop item source => IsWord item.toList ∧ source.Named
  | assign name source => IsWord name.toList ∧ source.Named
  | endLoop => True

instance : (code : Code) → Decidable code.Named
  | output name => inferInstanceAs (Decidable (IsWord name))
  | loop item source => inferInstanceAs (Decidable (IsWord item.toList ∧ source.Named))
  | assign name source => inferInstanceAs (Decidable (IsWord name.toList ∧ source.Named))
  | endLoop => inferInstanceAs (Decidable True)

end Code

def Piece.write : Piece → List Char
  | text plain => plain
  | code inner => inner.write

/-! ### One piece of code -/

theorem Path.reads {path : Path} {kind : Delimiter} {text rest : List Char} {tokens : List Token}
    (named : path.Named) (reads : Reads kind text tokens rest) :
    Reads kind (path.text ++ ' ' :: text) (path.tokens ++ tokens) rest := by
  obtain ⟨owner, member⟩ := path
  obtain ⟨isOwner, isMember⟩ := named
  cases member with
  | none => exact reads.name isOwner
  | some member =>
    have point := (reads.name (isMember member rfl)).mark (.inl rfl)
    have apart : ∀ c ∈ ('.' :: (member.toList ++ ' ' :: text)).head?, isNameChar c = false := by
      intro c first
      cases first
      decide
    have whole := point.word isOwner apart
    rw [String.ofList_toList] at whole
    simpa [Path.text, Path.tokens] using whole

theorem isWord_for : IsWord "for".toList := by decide

theorem isWord_in : IsWord "in".toList := by decide

theorem isWord_set : IsWord "set".toList := by decide

theorem isWord_endfor : IsWord "endfor".toList := by decide

/-- **Code is cut into its tokens**, up to its end. -/
theorem Code.reads {code : Code} (named : code.Named) (rest : List Char) :
    Reads code.kind (code.inner ++ (code.kind.closing ++ rest)) code.tokens rest := by
  have ends := reads_end code.kind rest
  cases code with
  | output name =>
    have apart : ∀ c ∈ (Delimiter.output.closing ++ rest).head?, isNameChar c = false := by
      intro c first
      cases first
      decide
    exact ends.word named apart
  | loop item source =>
    have path := Path.reads named.2 ends
    have head := ((path.name isWord_in).name named.1).name isWord_for
    simpa [inner, tokens] using head.blank
  | assign name source =>
    have path := Path.reads named.2 ends
    have head := (path.blank.mark (.inr ⟨rfl, by simp⟩)).name named.1
    simpa [inner, tokens] using (head.name isWord_set).blank
  | endLoop => exact (ends.name isWord_endfor).blank

/-- Nothing is trimmed before code. -/
theorem Code.sign_inner {code : Code} (named : code.Named) (rest : List Char) :
    sign (code.inner ++ rest) = (false, code.inner ++ rest) := by
  cases code with
  | output name =>
    obtain ⟨c, more, rfl, starts⟩ := IsWord.exists_cons named
    exact sign_of_isNameStart starts _
  | loop | assign | endLoop => rfl

theorem scanPart_statement {text rest : List Char} {tokens : List Token}
    (other : lonelyWord? "raw".toList text = none)
    (reads : code .statement text = (tokens, false, rest)) :
    scanPart .statement text = (.statement tokens, false, rest) := by
  simp only [scanPart, other, reads]

/-- **A part is its code**, whatever comes after it. -/
theorem Code.scanPart_inner {code : Code} (named : code.Named) (rest : List Char) :
    scanPart code.kind (code.inner ++ (code.kind.closing ++ rest)) = (code.part, false, rest) := by
  have reads : Script.code code.kind (code.inner ++ (code.kind.closing ++ rest)) =
      (code.tokens, false, rest) := code.reads named rest _ (Nat.lt_succ_self _) false
  cases code with
  | output name =>
    rw [kind] at reads ⊢
    simp only [scanPart, reads]
    rfl
  | loop | assign | endLoop => exact scanPart_statement rfl reads

/-! ### Text between delimiters -/

/-- A text that holds no delimiter. -/
def Plain (text : List Char) : Prop :=
  ∀ kind : Delimiter, ¬ kind.opening <:+: text

/-- A text that does not reach into a delimiter. -/
def Solid (text : List Char) : Prop :=
  text.getLast? ≠ some '\x7b'

/-- A text without braces has no delimiter. -/
theorem plain_of_not_mem {text : List Char} (missing : '\x7b' ∉ text) : Plain text := by
  intro kind inside
  have first : '\x7b' ∈ kind.opening := by cases kind <;> simp [Delimiter.opening]
  exact missing (inside.subset first)

theorem plain_nil : Plain [] := by
  intro kind inside
  cases kind <;> simp [Delimiter.opening] at inside

theorem solid_nil : Solid [] := by
  simp [Solid]

theorem delimiter?_eq_none {text : List Char}
    (starts : ∀ kind : Delimiter, ¬ kind.opening <+: text) : delimiter? text = none := by
  unfold delimiter?
  split
  · next rest => exact absurd ⟨rest, rfl⟩ (starts .output)
  · next rest => exact absurd ⟨rest, rfl⟩ (starts .statement)
  · next rest => exact absurd ⟨rest, rfl⟩ (starts .comment)
  · rfl

theorem Plain.tail {c : Char} {text : List Char} (plain : Plain (c :: text)) : Plain text :=
  fun kind inside => plain kind (inside.trans (List.suffix_cons c text).isInfix)

/-- No delimiter starts in a text that holds none and does not reach into one. -/
theorem Plain.delimiter?_append {c : Char} {text : List Char} (plain : Plain (c :: text))
    (solid : Solid (c :: text)) (rest : List Char) : delimiter? (c :: text ++ rest) = none := by
  refine delimiter?_eq_none fun kind starts => ?_
  cases text with
  | nil =>
    have first : c = '\x7b' := by
      obtain ⟨_, same⟩ := starts
      cases kind <;> exact (List.cons.inj same).1.symm
    exact solid (first ▸ rfl)
  | cons d text =>
    have front : kind.opening <+: c :: d :: text := by
      refine List.prefix_of_prefix_length_le starts (List.prefix_append _ _) ?_
      cases kind <;> simp [Delimiter.opening]
    exact plain kind front.isInfix

theorem Plain.beforeDelimiter_eq {text : List Char} (plain : Plain text) :
    beforeDelimiter text = (text, none) := by
  induction text with
  | nil => rfl
  | cons c text ih =>
    have none : delimiter? (c :: text) = .none :=
      delimiter?_eq_none fun kind starts => plain kind starts.isInfix
    rw [beforeDelimiter, none, ih plain.tail]

theorem Solid.tail {c : Char} {text : List Char} (solid : Solid (c :: text)) : Solid text := by
  cases text with
  | nil => exact solid_nil
  | cons d text => simpa [Solid, List.getLast?_cons_cons] using solid

/-- A text before code goes up to the code. -/
theorem Plain.beforeDelimiter_append {text : List Char} (plain : Plain text) (solid : Solid text)
    (code : Code) (rest : List Char) :
    beforeDelimiter (text ++ (code.write ++ rest)) =
      (text, some (code.kind, code.inner ++ (code.kind.closing ++ rest))) := by
  induction text with
  | nil =>
    cases code <;> simp [Code.write, Code.kind, Delimiter.opening, beforeDelimiter, delimiter?]
  | cons c text ih =>
    rw [List.cons_append, beforeDelimiter, ← List.cons_append, plain.delimiter?_append solid,
      ih plain.tail solid.tail]

theorem solid_append {first second : List Char} (solid : Solid first) (solid' : Solid second) :
    Solid (first ++ second) := by
  rw [Solid, List.getLast?_append]
  cases last : second.getLast? with
  | none => simpa [Solid] using solid
  | some c => simpa [Solid, last] using solid'

/-- Where two texts meet there is no delimiter, if the first does not reach into one. -/
theorem plain_append {first second : List Char} (plain : Plain first) (solid : Solid first)
    (plain' : Plain second) : Plain (first ++ second) := by
  induction first with
  | nil => exact plain'
  | cons c first ih =>
    intro kind inside
    rw [List.cons_append, List.infix_cons_iff] at inside
    rcases inside with starts | inside
    · have none := plain.delimiter?_append solid second
      obtain ⟨rest, same⟩ := starts
      rw [List.cons_append, ← same] at none
      cases kind <;> cases none
    · exact ih plain.tail solid.tail kind inside

/-! ### Whole templates -/

/-- The parts of pieces behind a text. -/
def assemble : List Char → List Piece → List Part
  | pending, [] => [.text pending]
  | pending, .text plain :: rest => assemble (pending ++ plain) rest
  | pending, .code code :: rest => .text pending :: code.part :: assemble [] rest

/-- Pieces that can be cut apart again. The last text may reach into a delimiter, since there is
none. -/
structure Tidy (pieces : List Piece) : Prop where
  plain : ∀ text, .text text ∈ pieces → Plain text
  solid : ∀ text, .text text ∈ pieces.dropLast → Solid text
  named : ∀ code, .code code ∈ pieces → code.Named

theorem mem_dropLast_cons {piece other : Piece} {pieces : List Piece}
    (member : piece ∈ pieces.dropLast) : piece ∈ (other :: pieces).dropLast := by
  cases pieces with
  | nil => cases member
  | cons next pieces => exact List.mem_cons_of_mem _ member

theorem Tidy.tail {piece : Piece} {pieces : List Piece} (tidy : Tidy (piece :: pieces)) :
    Tidy pieces where
  plain text member := tidy.plain text (List.mem_cons_of_mem _ member)
  solid text member := tidy.solid text (mem_dropLast_cons member)
  named code member := tidy.named code (List.mem_cons_of_mem _ member)

/-- Pieces behind a text are cut into the text and their parts. -/
theorem partSteps_write (pieces : List Piece) : ∀ {pending : List Char}, Tidy pieces →
    Plain pending → (pieces ≠ [] → Solid pending) →
    ∀ steps, (pending ++ pieces.flatMap Piece.write).length < steps →
      partSteps steps false (pending ++ pieces.flatMap Piece.write) = assemble pending pieces := by
  induction pieces with
  | nil =>
    intro pending tidy plain solid steps enough
    obtain ⟨steps, rfl⟩ := Nat.exists_eq_add_of_lt enough
    rw [List.flatMap_nil, List.append_nil] at *
    rw [partSteps]
    simp only [Bool.false_eq_true, if_false, plain.beforeDelimiter_eq]
    rfl
  | cons piece pieces ih =>
    intro pending tidy plain solid steps enough
    have pendingSolid := solid (List.cons_ne_nil _ _)
    cases piece with
    | text plain' =>
      have here := tidy.plain plain' List.mem_cons_self
      rw [List.flatMap_cons, Piece.write, ← List.append_assoc] at enough ⊢
      refine ih tidy.tail (plain_append plain pendingSolid here) (fun more => ?_) steps enough
      obtain ⟨next, rest, rfl⟩ := List.exists_cons_of_ne_nil more
      exact solid_append pendingSolid (tidy.solid plain' (by simp))
    | code code =>
      have named := tidy.named code List.mem_cons_self
      rw [List.flatMap_cons, Piece.write] at enough ⊢
      cases steps with
      | zero => cases enough
      | succ steps =>
        have shorter : (pieces.flatMap Piece.write).length < steps := by
          have positive : 0 < code.write.length := by cases code <;> simp [Code.write, Code.kind,
            Delimiter.opening]
          simp only [List.length_append] at enough
          omega
        have rest := ih tidy.tail plain_nil (fun _ => solid_nil) steps shorter
        rw [partSteps]
        simp only [Bool.false_eq_true, if_false, plain.beforeDelimiter_append pendingSolid,
          Code.sign_inner named, Code.scanPart_inner named]
        rw [assemble, ← rest]
        rfl

/-- **A template in pieces is cut into their parts.** -/
theorem parts_write {pieces : List Piece} (tidy : Tidy pieces) :
    parts (pieces.flatMap Piece.write) = assemble [] pieces :=
  partSteps_write pieces tidy plain_nil (fun _ => solid_nil) _ (Nat.lt_succ_self _)

end CatalogPages.Script
