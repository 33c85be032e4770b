/-
**Texts and lists of texts.**

Only a text is decoded to a text, and only a list of texts to texts, in a document and in a settings
file alike.

* `Schema.ofJson_text_iff`, `Schema.ofJson_optionalText_iff`, `Schema.ofJson_texts_iff`: documents;
* `Schema.ofToml_text_iff`, `Schema.ofToml_texts_iff`: values of a settings file;
* `Schema.ofToml_list_iff`: lists of anything in a settings file.
-/

import CatalogPages.Proofs.Success
import CatalogPages.Schema.OfJson
import CatalogPages.Schema.OfToml

namespace CatalogPages

/-- Items that are each the image of a result are the images of the results. -/
theorem forall₂_image_iff {α β : Type} (f : β → α) {items : List α} {results : List β} :
    List.Forall₂ (fun item result => item = f result) items results ↔
      items = results.map f := by
  rw [← List.forall₂_map_right_iff, List.forall₂_eq_eq_eq]

namespace Schema

/-! ### Documents -/

theorem ofJson_text_iff {document : Json} {text : String} :
    Schema.text.ofJson document = .ok text ↔ document = .string text := by
  constructor
  · intro decodes
    cases document with
    | string written =>
      cases decodes
      rfl
    | _ => cases decodes
  · rintro rfl
    rfl

theorem ofJson_optionalText_iff {document : Json} {text : Option String} :
    (Schema.optional .text).ofJson document = .ok text ↔ document = .optional text := by
  constructor
  · intro decodes
    cases document with
    | null | string written =>
      cases decodes
      rfl
    | _ => cases decodes
  · rintro rfl
    cases text with
    | none => rfl
    | some text => rfl

theorem ofJson_texts_iff {document : Json} {texts : List String} :
    (Schema.list .text).ofJson document = .ok texts ↔ document = .strings texts := by
  constructor
  · intro decodes
    cases document with
    | array items =>
      have each := (mapM_ok_iff_forall₂ Schema.text.ofJson).mp decodes
      simp only [ofJson_text_iff] at each
      exact congrArg Json.array ((forall₂_image_iff Json.string).mp each)
    | _ => cases decodes
  · rintro rfl
    refine (mapM_ok_iff_forall₂ Schema.text.ofJson).mpr ?_
    simp only [ofJson_text_iff]
    exact (forall₂_image_iff Json.string).mpr rfl

/-! ### Settings files -/

theorem ofToml_text_iff {value : Toml.Value} {text : String} :
    Schema.text.ofToml value = some text ↔ value = .text text := by
  constructor
  · intro decodes
    cases value with
    | text written =>
      cases decodes
      rfl
    | _ => cases decodes
  · rintro rfl
    rfl

theorem ofToml_list_iff {α : Type} {item : Schema α} {value : Toml.Value} {results : List α} :
    (Schema.list item).ofToml value = some results ↔
      ∃ items, value = .array items ∧
        List.Forall₂ (fun document result => item.ofToml document = some result) items results := by
  constructor
  · intro decodes
    cases value with
    | array items => exact ⟨items, rfl, (mapM_eq_some_iff_forall₂ item.ofToml).mp decodes⟩
    | _ => cases decodes
  · rintro ⟨items, rfl, each⟩
    exact (mapM_eq_some_iff_forall₂ item.ofToml).mpr each

theorem ofToml_texts_iff {value : Toml.Value} {texts : List String} :
    (Schema.list .text).ofToml value = some texts ↔ value = .array (texts.map .text) := by
  simp only [ofToml_list_iff, ofToml_text_iff, forall₂_image_iff]
  exact ⟨fun ⟨items, written, same⟩ => same ▸ written, fun written => ⟨_, written, rfl⟩⟩

end Schema

end CatalogPages
