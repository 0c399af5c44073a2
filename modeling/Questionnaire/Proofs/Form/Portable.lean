import Questionnaire.Proofs.Form.Import
import Questionnaire.Proofs.Lists

/-!
# What a form loses on the way through JSON

`Schema.portable` is what is read back from the export of a form.  It has the same structure, so it is
sound if the form is (`Schema.Sound.portable`), and only the values of conditions can differ.  It is the
form itself when these values are portable (`Schema.portable_eq_self_iff`), and it has the same export
when none of them becomes `null` (`Schema.exported_portable_iff`).
-/

namespace Questionnaire

namespace Field

/-! ### The tree -/

theorem children_portable (f : Field) : f.portable.children = f.children.map portable := by
  unfold children
  rw [portable_eq]
  cases f.subFields with
  | none => rfl
  | some fs => rfl

theorem conditionList_portable (f : Field) :
    f.portable.conditionList = f.conditionList.map Condition.portable := by
  unfold conditionList
  rw [portable_eq]
  cases f.conditions with
  | none => rfl
  | some cs => rfl

theorem tree_portable (f : Field) : f.portable.tree = f.tree.map portable := by
  induction f using childrenInduction with
  | step f ih =>
    rw [tree_eq, tree_eq, children_portable, treeList_eq_flatMap, treeList_eq_flatMap, List.map_cons,
      List.flatMap_map, List.map_flatMap]
    congr 1
    exact List.flatMap_congr ih

theorem treeList_portable (fs : List Field) :
    treeList (fs.map portable) = (treeList fs).map portable := by
  rw [treeList_eq_flatMap, treeList_eq_flatMap, List.flatMap_map, List.map_flatMap]
  exact List.flatMap_congr fun f _ => f.tree_portable

theorem id_portable (f : Field) : f.portable.id = f.id := by rw [portable_eq]

theorem type_portable (f : Field) : f.portable.type = f.type := by rw [portable_eq]

theorem choices_portable (f : Field) : f.portable.choices = f.choices := by
  unfold choices
  rw [portable_eq]

end Field

/-- What JSON does not have in the values of conditions does not matter to the soundness of a form. -/
theorem Schema.Sound.portable {s : Schema} (h : s.Sound) : s.portable.Sound := by
  have hfields : s.portable.fields = s.fields.map Field.portable := Field.portableList_eq s.fields
  unfold Schema.Sound
  rw [hfields]
  refine ⟨?_, ?_, ?_, ?_, ?_⟩
  -- Each rule is about identifiers, types, choices or sources, none of which a portable value
  -- touches.
  · rw [Field.allIdsList_eq_treeList, Field.treeList_portable, List.map_map]
    have hids := h.ids_nodup
    rw [Field.allIdsList_eq_treeList] at hids
    have hid : (fun f : Field => f.id) ∘ Field.portable = fun f => f.id := funext Field.id_portable
    rwa [hid]
  · rw [Field.treeList_portable]
    intro f hf c hc
    obtain ⟨g, hg, rfl⟩ := List.mem_map.mp hf
    rw [Field.conditionList_portable] at hc
    obtain ⟨d, hd, rfl⟩ := List.mem_map.mp hc
    rw [Field.id_portable]
    exact h.no_self_condition g hg d hd
  · rw [Field.treeList_portable]
    intro f hf
    obtain ⟨g, hg, rfl⟩ := List.mem_map.mp hf
    rw [Field.choices_portable]
    exact h.choice_ids_nodup g hg
  · intro f hf hchildren
    obtain ⟨g, hg, rfl⟩ := List.mem_map.mp hf
    rw [Field.children_portable] at hchildren
    rw [Field.type_portable]
    exact h.section_of_children g hg fun hnil => hchildren (by rw [hnil]; rfl)
  · intro f hf g hg
    obtain ⟨k, hk, rfl⟩ := List.mem_map.mp hf
    rw [Field.children_portable, Field.treeList_portable] at hg
    obtain ⟨j, hj, rfl⟩ := List.mem_map.mp hg
    obtain ⟨htype, hleaf⟩ := h.leaf_of_nested k hk j hj
    rw [Field.type_portable, Field.children_portable, hleaf]
    exact ⟨htype, rfl⟩

/-! ### What is kept -/

theorem Value.nonNull?_of_ne {v : Value} (h : v ≠ .null) : v.nonNull? = some v := by
  cases v with
  | null => exact absurd rfl h
  | _ => rfl

namespace Condition

theorem portable_eq_self_iff (c : Condition) : c.portable = c ↔ c.value.portable = c.value := by
  obtain ⟨source, operator, value⟩ := c
  unfold portable
  simp

/-- The export of a condition has a value unless it is `null`. -/
theorem toValue_portable_iff {c : Condition} {N : Number → Prop} (h : c.value.IsJson N) :
    c.portable.toValue .portable = c.toValue .portable ↔
      (c.value.portable = .null → c.value = .null) := by
  -- The shown members are the same when the parts are.
  have hparts : c.portable.toValue .portable = c.toValue .portable ↔ c.portable.parts = c.parts := by
    have hnodup : c.portable.parts.names.Nodup := by simp [parts, Members.names]
    unfold toValue
    rw [Value.dict.injEq, members_portable, members_portable]
    constructor
    · exact Members.present_inj rfl hnodup
    · exact congrArg Members.present
  rw [hparts]
  unfold parts portable
  simp only [List.cons.injEq, Prod.mk.injEq, true_and, and_true]
  -- A value that becomes null is dropped from what is shown; any other one stays and is portable.
  by_cases hnull : c.value.portable = .null
  · rw [hnull]
    cases hc : c.value with
    | _ => simp [Value.nonNull?]
  · have hc : c.value ≠ .null := by
      intro hc
      rw [hc] at hnull
      exact hnull rfl
    rw [Value.nonNull?_of_ne hnull, Value.nonNull?_of_ne hc, Option.map_some, h.portable_portable]
    exact iff_of_true rfl fun h => absurd h hnull

end Condition

namespace Field

theorem portable_eq_self_iff (f : Field) : f.portable = f ↔
    ∀ g ∈ f.tree, ∀ c ∈ g.conditionList, c.portable = c := by
  induction f using childrenInduction with
  | step f ih =>
    rw [forall_tree_iff, ← forall₂_congr ih]
    unfold conditionList children
    rw [← map_map_eq_self_iff, ← map_map_eq_self_iff, portable_eq]
    obtain ⟨id, type, label, required, placeholder, helpText, options, constraints, conditions,
      subFields⟩ := f
    simp

/-- Fields have one export iff their parts are the same. -/
theorem toValue_eq_iff {view : View} (hview : view ≠ .attributes) {f g : Field} :
    f.toValue view = g.toValue view ↔ f.parts view = g.parts view := by
  unfold toValue
  rw [Value.dict.injEq, members_eq hview, members_eq hview]
  constructor
  · exact Members.present_inj rfl (f.nodup_names_parts view)
  · exact congrArg Members.present

theorem toValue_portable_iff (f : Field) :
    f.portable.toValue .portable = f.toValue .portable ↔
      ∀ g ∈ f.tree, ∀ c ∈ g.conditionList, c.portable.toValue .portable = c.toValue .portable := by
  induction f using childrenInduction with
  | step f ih =>
    have hlists {α : Type} {o : Option (List α)} {g h : α → Value} :
        o.map (fun as => Value.list (as.map g)) = o.map (fun as => Value.list (as.map h)) ↔
          ∀ a ∈ o.getD [], g a = h a := by
      rw [← map_map_eq_iff]
      cases o <;> simp
    have hview : View.portable ≠ .attributes := nofun
    rw [forall_tree_iff, ← forall₂_congr ih, toValue_eq_iff hview]
    unfold conditionList children
    rw [← hlists, ← hlists, portable_eq]
    unfold parts
    simp [Function.comp_def]

end Field

namespace Schema

/-- The values of all conditions in a form. -/
def conditionValues (s : Schema) : List Value :=
  (Field.treeList s.fields).flatMap fun f => f.conditionList.map (·.value)

theorem forall_conditionValues_iff {s : Schema} {P : Value → Prop} :
    (∀ v ∈ s.conditionValues, P v) ↔
      ∀ f ∈ s.fields, ∀ g ∈ f.tree, ∀ c ∈ g.conditionList, P c.value := by
  rw [← Field.forall_treeList_iff]
  unfold conditionValues
  simp only [List.mem_flatMap, List.mem_map, forall_exists_index, and_imp]
  constructor
  · intro h g hg c hc
    exact h c.value g hg c hc rfl
  · rintro h _ g hg c hc rfl
    exact h g hg c hc

/-- A form is what is read back from its export iff the values of its conditions are portable. -/
theorem portable_eq_self_iff (s : Schema) :
    s.portable = s ↔ ∀ v ∈ s.conditionValues, v.portable = v := by
  have hmap : s.fields.map Field.portable = s.fields.map id ↔ _ := List.map_inj_left
  have hschema : s.portable = s ↔ s.fields.map Field.portable = s.fields.map id := by
    obtain ⟨title, description, fields, settings⟩ := s
    unfold portable
    rw [Field.portableList_eq, List.map_id]
    simp
  rw [hschema, hmap, forall_conditionValues_iff]
  refine forall₂_congr fun f _ => ?_
  rw [id_eq, Field.portable_eq_self_iff]
  simp only [Condition.portable_eq_self_iff]

/-- What is read back from the export of a form has the same export iff no value of a condition
becomes `null`. -/
theorem exported_portable_iff {s : Schema} {N : Number → Prop}
    (h : ∀ v ∈ s.conditionValues, v.IsJson N) :
    s.portable.exported = s.exported ↔ ∀ v ∈ s.conditionValues, v.portable = .null → v = .null := by
  have hmap := List.map_inj_left (l := s.fields)
    (f := fun f => f.portable.toValue .portable) (g := fun f => f.toValue .portable)
  have hschema : s.portable.exported = s.exported ↔
      s.fields.map (fun f => f.portable.toValue .portable) = s.fields.map (·.toValue .portable) := by
    unfold exported toValue members portable
    rw [Field.listValues_eq, Field.listValues_eq, Field.portableList_eq, List.map_map]
    simp [Function.comp_def]
  rw [forall_conditionValues_iff] at h
  rw [hschema, hmap, forall_conditionValues_iff]
  refine forall₂_congr fun f hf => ?_
  rw [Field.toValue_portable_iff]
  refine forall₂_congr fun g hg => forall₂_congr fun c hc => ?_
  exact Condition.toValue_portable_iff (h f hf g hg c hc)

end Schema
end Questionnaire
