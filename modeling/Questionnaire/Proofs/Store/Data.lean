import Questionnaire.Proofs.Form.Data
import Questionnaire.Store.Basic

/-!
# Stores with forms of JSON data

A form that is handed in as JSON data is made of JSON data (`Schema.ofJson_of_read`), and a field of
JSON data remains one when JSON data is put over its members (`Store.treeOfJson_of_overlaid`).
-/

namespace Questionnaire

/-- A form of JSON data: its fields have ids, and its conditions JSON data to compare with. -/
def Schema.OfJson (s : Schema) : Prop := ∀ f ∈ s.fields, f.TreeOfJson

namespace Schema

variable {s : Schema}

/-- No identifier is empty in a form that comes from JSON. -/
theorem OfJson.id_ne (h : s.OfJson) : ∀ f ∈ Field.treeList s.fields, f.id ≠ "" :=
  Field.forall_treeList_iff.mpr fun f hf g hg => (h f hf g hg).id_ne

/-- And the values of its conditions come from JSON. -/
theorem OfJson.conditionValues (h : s.OfJson) : ∀ v ∈ s.conditionValues, v.IsJson Number.Any :=
  forall_conditionValues_iff.mpr fun f hf g hg => (h f hf g hg).conditions

/-- A form that is read from JSON data is a form of JSON data. -/
theorem ofJson_of_read {fallback : Reading Settings} {v : Value} (hv : v.IsJson Number.Any)
    (h : Schema.read fallback v = .ok s) : s.OfJson := by
  intro f hf
  obtain ⟨ms, fields, vs, hms, hfields, hvs, w, hw, hread⟩ := exists_item_of_read h f hf
  cases hv with
  | dict nodup hmembers =>
    cases hms
    have hjson := (Value.IsJson.dict nodup hmembers).get? hfields
    exact Field.ofJson_of_read (hjson.iterate hvs w hw) hread
  | _ => cases hms

end Schema

namespace Store

/-- A field of JSON data remains one when JSON data is put over its members. -/
theorem treeOfJson_of_overlaid {f g : Field} (hf : f.TreeOfJson) {changes : Members Value}
    (hchanges : ∀ m ∈ changes, m.2.IsJson Number.Any) (h : overlaid f changes = .read g) :
    g.TreeOfJson := by
  have hvalue : (f.toValue .document).IsJson Number.Any :=
    Field.isJson_toValue View.document_ne_attributes f fun k hk => ⟨hf k hk, fun _ _ => trivial⟩
  exact Field.ofJson_of_read (hvalue.overlay hchanges) h

end Store
end Questionnaire
