/-
**Texts of the metadata on a page.**

A text that is not safe is escaped where it is put on a page. Nothing in it can be taken for markup
there, and the page still tells the text.

* `run_output_text`: an output of such a text writes it escaped, once;
* `escape_neutralizes`: what an escaped text is like, and that outputs write it.
-/

import CatalogPages.Proofs.Text.Entities
import CatalogPages.Script.Evaluation

namespace CatalogPages.Script

open Text (escape unescape entities Spelled)

/-- An output of a text that is not safe writes it escaped, where values are. -/
theorem run_output_text {calls : Calls} {value : Expr} {before after : State} {content : String}
    (evaluates : (value.value calls).run before = .ok (.text content false, after))
    (escapes : after.escapes = true) :
    ((Node.output value).run calls).run before = .ok (escape content.toList, after) := by
  have written : (Value.text content false).onPage after.escapes = escape content.toList := by
    rw [Value.onPage_text, escapes, if_pos rfl]
  rw [← written, Node.run, StateT.run_bind, evaluates]
  rfl

/-- **Escaping neutralizes every text and loses nothing.** Of the characters that have a meaning
only `&` is in an escaped text, and only where an entity begins; every other character stands for
itself, in order. The text can be told from it, so that no two texts are escaped alike. What is put
on a page for a text that is not safe, by itself or by an output, is the text escaped once. -/
theorem escape_neutralizes (content : String) :
    (∀ c ∈ escape content.toList, c ∉ ['<', '>', '"', '\'']) ∧
      (∀ front back, escape content.toList = front ++ '&' :: back →
        ∃ entry ∈ entities, entry.2 <+: '&' :: back) ∧
      (∃ spellings, escape content.toList = spellings.flatten ∧
        List.Forall₂ Spelled content.toList spellings) ∧
      unescape (escape content.toList) = content.toList ∧
      (∀ other : String, escape other.toList = escape content.toList → other = content) ∧
      (Value.text content false).onPage true = escape content.toList ∧
      ∀ (calls : Calls) (value : Expr) (before after : State),
        (value.value calls).run before = .ok (.text content false, after) →
          after.escapes = true →
            ((Node.output value).run calls).run before = .ok (escape content.toList, after) := by
  refine ⟨Text.not_mem_escape _, fun front back => Text.exists_entity_of_ampersand,
    Text.exists_spelled _, Text.unescape_escape _, fun other same => ?_, ?_, ?_⟩
  · have back := congrArg unescape same
    rwa [Text.unescape_escape, Text.unescape_escape, String.toList_inj] at back
  · rw [Value.onPage_text, if_pos rfl]
  · exact fun calls value before after => run_output_text

/-- A text that is like an entity stays apart from the character that the entity is for. -/
theorem escape_neutralizes_entityLike :
    let content := "&lt;/b>"
    let start : State := { layers := [], page := "index.html" }
    let value : Expr := .constant (.text content false)
    (value.value (Calls.within 0)).run start = .ok (.text content false, start) ∧
      start.escapes = true ∧
      ((Node.output value).run (Calls.within 0)).run start =
        .ok ("&amp;lt;/b&gt;".toList, start) ∧
      unescape "&amp;lt;/b&gt;".toList = content.toList := by
  intro content start value
  obtain ⟨-, -, -, told, -, -, writes⟩ := escape_neutralizes content
  have escaped : escape content.toList = "&amp;lt;/b&gt;".toList := by decide
  rw [escaped] at told writes
  exact ⟨rfl, rfl, writes _ _ _ _ rfl rfl, told⟩

end CatalogPages.Script
