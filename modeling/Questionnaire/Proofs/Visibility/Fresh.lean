import Questionnaire.Form.Schema
import Questionnaire.Proofs.Form.Soundness
import Questionnaire.Proofs.Visibility.Memory

/-!
# Evaluators that remember nothing

An evaluator of no capacity answers each time what is visible, and remains as it is
(`Evaluator.visible_forgetful`).  It finds the section of a sub-field in a table that it makes of
all sub-fields, where a form looks through its sections one after the other; in a sound form both
find the same section (`Evaluator.get?_owners`), since no two sub-fields have one id.
-/

namespace Questionnaire

/-! ### Visible fields -/

/-- The visible fields are fields of the form, in their order. -/
theorem sublist_of_visibleAmong {sources : List String} {answers : Value} {fields : List Field}
    {visible : List String} (h : visibleAmong sources answers fields = .ok visible) :
    visible.Sublist (fields.map (·.id)) := by
  induction fields generalizing visible with
  | nil =>
    cases h
    exact List.Sublist.slnil
  | cons f fields ih =>
    obtain ⟨shown, _, h⟩ := Outcome.bind_eq_ok_iff.mp h
    obtain ⟨rest, hrest, h⟩ := Outcome.bind_eq_ok_iff.mp h
    obtain rfl := Outcome.pure_eq_ok_iff.mp h
    rw [List.map_cons]
    -- A hidden field leaves its id out, and a visible one adds it at the front of both.
    cases shown with
    | false => exact (ih hrest).cons f.id
    | true => exact (ih hrest).cons_cons f.id

namespace Evaluator

/-- An evaluator that remembers nothing answers what is visible, and remains as it is. -/
theorem visible_dict_of_not_remembers {e : Evaluator} (h : e.remembers = false)
    (answers : Members Value) :
    e.visible (.dict answers) = (e, visibleIn e.fields (.dict answers)) := by
  unfold visible
  dsimp only
  rw [effectiveAnswers_dict, key_dict, h]
  rfl

theorem visible_forgetful (fields : List Field) {answers : Value} (h : IsAnswers answers) :
    (new fields (.int 0)).visible answers = (new fields (.int 0), visibleIn fields answers) := by
  have hremembers : (new fields (.int 0)).remembers = false := by
    rw [remembers_of_int rfl]
    rfl
  rw [visible_of_isAnswers _ h, hremembers]
  rfl

/-! ### Sections -/

theorem owners_new (fields : List Field) (capacity : Number) :
    (new fields capacity).owners =
      Members.ofPairs (fields.flatMap fun f => f.children.map fun s => (s.id, f.id)) := rfl

theorem names_owners (fields : List Field) :
    Members.names (fields.flatMap fun f => f.children.map fun s => (s.id, f.id)) =
      (fields.flatMap (·.children)).map (·.id) := by
  unfold Members.names
  rw [List.map_flatMap, List.map_flatMap]
  simp only [List.map_map]
  rfl

/-- What one section adds to the table. -/
theorem get?_children (f : Field) (id : String) :
    Members.get? (f.children.map fun s => (s.id, f.id)) id =
      if (f.child? (.str id)).isSome then some f.id else none := by
  unfold Field.child?
  induction f.children with
  | nil => rfl
  | cons s children ih =>
    rw [List.map_cons, Members.get?_cons, ih, List.find?_cons]
    by_cases h : s.id = id
    · simp [Value.isText, Value.text?, h]
    · simp [Value.isText, Value.text?, h, Ne.symm h]

/-- In a sound form the table has for each sub-field the section that the form finds. -/
theorem get?_owners {schema : Schema} (h : schema.Sound) (capacity : Number) (id : String) :
    (new schema.fields capacity).owners.get? id = (schema.parent? (.str id)).map (·.id) := by
  -- No id is listed twice, so what is looked up is the first of all owners with a child of that id.
  have hnodup : (Members.names (schema.fields.flatMap fun f =>
      f.children.map fun s => (s.id, f.id))).Nodup := by
    rw [names_owners]
    exact h.nodup_childIds
  rw [owners_new, Members.ofPairs_of_nodup hnodup]
  unfold Schema.parent?
  clear h hnodup
  induction schema.fields with
  | nil => rfl
  | cons f fields ih =>
    rw [List.flatMap_cons, Members.get?_append, get?_children, ih, List.find?_cons]
    cases (f.child? (.str id)).isSome with
    | false => rfl
    | true => rfl

/-- A text names a sub-field of a section, or else the field with it as its id. -/
theorem isVisible_str (e : Evaluator) (id : String) (answers : Value) :
    (e.isVisible (.str id) answers).2 =
      (e.visible answers).2.map (·.contains ((e.owners.get? id).getD id)) := rfl

end Evaluator
end Questionnaire
