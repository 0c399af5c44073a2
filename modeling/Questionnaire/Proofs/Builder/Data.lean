import Questionnaire.Proofs.Builder.Lasting
import Questionnaire.Proofs.Store.Data

/-!
# Commands with JSON data

Every part of JSON data is JSON data, and the builder makes nothing else of it.  So every accepted
command that is handed JSON data keeps a form of JSON data (`Builder.lasting_treeOfJson`).
-/

namespace Questionnaire.Builder

/-- Completed changes come from JSON if the changes do. -/
theorem isJson_of_completeChanges (f : Field) {changes : Value} (hchanges : changes.IsJson Number.Any)
    {ms : Members Value} (h : completeChanges f changes = .ok ms) :
    (Value.dict ms).IsJson Number.Any := by
  obtain ⟨members, hmembers, h⟩ := Outcome.bind_eq_ok_iff.mp h
  have hmembers := RecordKind.isJson_of_documentMembers hchanges hmembers
  split at h
  · cases h
    exact hmembers
  · cases h
    exact hmembers
  -- Only constraints are completed, and the old ones come from the form.
  · rename_i new _ hnew
    have hnew := hmembers.get? hnew
    have hold : (Value.dict ((f.constraints.map (·.members .document)).getD [])).IsJson Number.Any := by
      cases f.constraints with
      | none => exact .dict List.nodup_nil (by simp)
      | some c =>
        exact Constraints.isJson_toValue View.document_ne_attributes fun _ _ => trivial
    obtain ⟨complete, hcomplete, h⟩ := Outcome.bind_eq_ok_iff.mp h
    obtain rfl := Outcome.pure_eq_ok_iff.mp h
    have hcomplete : (Value.dict complete).IsJson Number.Any := by
      cases hnew with
      | dict nodup hms => exact RecordKind.isJson_of_documentMembers (.dict nodup hms) hcomplete
      | _ => cases hcomplete
    exact hmembers.put _ (hold.overlay hcomplete.member)

/-- Conditions with JSON data may take the place of others. -/
theorem treeOfJson_putConditions {f : Field} (hf : f.TreeOfJson) {conditions : List Condition}
    (hconditions : ∀ c ∈ conditions, c.value.IsJson Number.Any) :
    Field.TreeOfJson { f with conditions := some conditions } := by
  obtain ⟨hown, hchildren⟩ := Field.treeOfJson_iff.mp hf
  exact Field.treeOfJson_iff.mpr ⟨⟨hown.id_ne, hconditions⟩, hchildren⟩

/-- Commands that are handed JSON data keep fields of JSON data. -/
theorem lasting_treeOfJson : Lasting (Value.IsJson Number.Any) Field.TreeOfJson where
  str := .str
  -- The conditions are all a field holds of values that were given; every other command leaves
  -- them.
  single hv name := .dict (List.nodup_singleton name) fun m hm => by rwa [List.mem_singleton.mp hm]
  iterate hv h := hv.iterate h
  documentMembers hv h := RecordKind.isJson_of_documentMembers hv h
  completeChanges hv h := isJson_of_completeChanges _ hv h
  read hv h := Field.ofJson_of_read hv h
  readSchema hv h := Schema.ofJson_of_read hv h
  overlaid hf hms h := Store.treeOfJson_of_overlaid hf hms.member h
  child hf := (Field.treeOfJson_iff.mp hf).2
  fresh hid hconditions hchildren := by
    refine Field.treeOfJson_iff.mpr ⟨⟨hid, ?_⟩, ?_⟩
    · rw [hconditions]
      exact List.forall_mem_nil _
    · rw [hchildren]
      exact List.forall_mem_nil _
  options hf _ := hf.congr rfl rfl rfl
  subFields hf hks := by
    obtain ⟨hown, -⟩ := Field.treeOfJson_iff.mp hf
    exact Field.treeOfJson_iff.mpr ⟨⟨hown.id_ne, hown.conditions⟩, hks⟩
  addCondition hf hsource hoperator hvalue h := by
    refine treeOfJson_putConditions hf fun c hc => ?_
    rcases List.mem_append.mp hc with hc | hc
    · exact (Field.treeOfJson_iff.mp hf).1.conditions c hc
    · rw [List.mem_singleton.mp hc]
      refine Condition.isJson_of_ofMembers (.dict (by simp [Members.names]) ?_) h
      simp only [List.forall_mem_cons]
      exact ⟨hsource, hoperator, hvalue, List.forall_mem_nil _⟩
  updateCondition {f _ _} hf n hms h := by
    have hconditions := (Field.treeOfJson_iff.mp hf).1.conditions
    have hold : (Value.dict (((f.conditionList[n]?).map (·.members .document)).getD [])).IsJson
        Number.Any := by
      cases hc : f.conditionList[n]? with
      | none => exact .dict List.nodup_nil (by simp)
      | some c =>
        exact Condition.isJson_toValue View.document_ne_attributes
          (hconditions c (List.mem_of_getElem? hc))
    refine treeOfJson_putConditions hf fun d hd => ?_
    rcases List.mem_or_eq_of_mem_set hd with hd | rfl
    · exact hconditions d hd
    · exact Condition.isJson_of_ofMembers (hold.overlay hms.member) h
  removeCondition hf _ := by
    refine treeOfJson_putConditions hf fun c hc => ?_
    exact (Field.treeOfJson_iff.mp hf).1.conditions c (List.mem_of_mem_eraseIdx hc)

end Questionnaire.Builder
