import Questionnaire.Proofs.Form.Offences
import Questionnaire.Proofs.Store.Updating
import Questionnaire.Proofs.Workspace.Lasting
import Questionnaire.Proofs.Workspace.Lifetime

/-!
# Reordering

The order of the top-level fields does not matter for a form to be accepted, so a store takes up its
own fields in every order, and its ledger remains what it is (`Store.commit_of_perm`).

A list of fields that is handed in to reorder them need not consist of the fields of the form,
though: only its ids are compared with theirs, and its definitions take their place.
`Store.reorderFields_takes_definitions` says when that comes to nothing but another order, and when
the ledger remains what it is.
-/

namespace Questionnaire

/-! ### Orders of fields -/

namespace Schema.Sound

variable {schema : Schema} (h : schema.Sound) {fields : List Field}
include h

/-- Fields with the ids of a form are its fields exactly when each is the one that the form has
under its id. -/
theorem perm_fields_iff (hids : (fields.map (·.id)).Perm schema.fieldIds) :
    fields.Perm schema.fields ↔ ∀ g ∈ fields, schema.field? (.str g.id) = some g := by
  have hn : schema.fields.Nodup := List.Nodup.of_map _ h.nodup_ids
  have hnfields : fields.Nodup := List.Nodup.of_map _ (hids.nodup_iff.mpr h.nodup_ids)
  constructor
  · exact fun hperm g hg => h.field?_id (hperm.subset hg)
  · intro hfound
    refine (List.perm_ext_iff_of_nodup hnfields hn).mpr fun f => ⟨fun hf => ?_, fun hf => ?_⟩
    · exact List.mem_of_find?_eq_some (hfound f hf)
    · have hid : f.id ∈ fields.map (·.id) := hids.symm.subset (List.mem_map_of_mem hf)
      obtain ⟨g, hg, hgf⟩ := List.mem_map.mp hid
      have hsame : some g = some f := by rw [← hfound g hg, hgf, h.field?_id hf]
      exact Option.some.inj hsame ▸ hg

end Schema.Sound

namespace Store

/-! ### Ledgers -/

/-- A ledger remains what it is exactly when it has all ids that it is to take. -/
theorem record_eq_self_iff {ledger ids : List String} :
    record ledger ids = ledger ↔ ids ⊆ ledger := by
  constructor
  · intro h id hid
    rw [← h]
    exact mem_record.mpr (Or.inr hid)
  · intro h
    induction ids with
    | nil => rfl
    | cons id ids ih =>
      obtain ⟨hid, hids⟩ := List.cons_subset.mp h
      rw [record, if_pos hid]
      exact ih hids

variable {s t : Store}

/-- The ledger of a store that is reached has the ids of all its fields. -/
theorem Reachable.issued (h : s.Reachable) : s.schema.allFieldIds ⊆ s.issued := by
  obtain ⟨c, ids, v, plan, w, events, hw, rfl⟩ := h
  have hkept := Workspace.kept_of_new hw events
  exact fun id hid => (hkept.mem_issued id).mpr ⟨_, List.mem_of_head? hkept.current, hid⟩

/-- A form that is taken up leaves the ledger as it is exactly when it brings in no ids. -/
theorem Reachable.issued_eq_iff (hs : s.Reachable) (h : s.Committed t) :
    t.issued = s.issued ↔ t.schema.allFieldIds ⊆ s.schema.allFieldIds := by
  rw [(committed_iff.mp h).2.2, record_eq_self_iff]
  constructor
  · exact fun hids id hid => h.mem_of_mem_issued (hids hid) hid
  · exact fun hids id hid => hs.issued (hids hid)

/-! ### Reordering -/

/-- The fields of a form are taken up in any order. -/
theorem commit_of_perm (hsound : s.schema.Sound) (hissued : s.schema.allFieldIds ⊆ s.issued)
    {fields : List Field} (hperm : fields.Perm s.schema.fields) :
    s.commit { s.schema with fields } = .ok ⟨{ s.schema with fields }, s.issued⟩ := by
  have hmem (id : String) (hid : id ∈ Field.allIdsList fields) : id ∈ s.schema.allFieldIds := by
    unfold Schema.allFieldIds
    rw [Field.allIdsList_eq_flatMap] at hid ⊢
    exact (hperm.flatMap_right _).subset hid
  have hintact : Intact s.retired s.schema.fields :=
    intact_iff.mpr ⟨hsound, fun id hid hretired => (mem_retired.mp hretired).2 hid⟩
  have hsoundFields : SoundFields fields := (intact_iff.mp (hintact.perm hperm.symm)).1
  have hrecord : record s.issued (Field.allIdsList fields) = s.issued :=
    record_eq_self_iff.mpr fun id hid => hissued (hmem id hid)
  refine commit_eq_ok_iff.mpr ⟨hsoundFields, fun id hid hretired => ?_, ?_⟩
  · exact (mem_retired.mp hretired).2 (hmem id hid)
  · exact congrArg (Store.mk _) hrecord.symm

/-- A reordering reads the given fields and commits them in their order. -/
theorem reorderFields_eq_ok_iff {v : Value} :
    s.reorderFields v = .ok t ↔ ∃ vs fields, v.iterate = .ok vs ∧ fieldsOf vs = .ok fields ∧
      (fields.map (·.id)).Perm s.schema.fieldIds ∧
      s.commit { s.schema with fields } = .ok t := by
  unfold reorderFields
  rw [Outcome.bind_eq_ok_iff]
  constructor
  · rintro ⟨_, hschema, h⟩
    obtain ⟨vs, fields, hvs, hfields, hids, rfl⟩ := reordered_eq_ok_iff.mp hschema
    exact ⟨vs, fields, hvs, hfields, hids, h⟩
  · rintro ⟨vs, fields, hvs, hfields, hids, h⟩
    exact ⟨_, reordered_eq_ok_iff.mpr ⟨vs, fields, hvs, hfields, hids, rfl⟩, h⟩

/-- A reordering that is accepted takes the definitions that are handed in, in their order, for the
fields with their ids, and alters nothing else of the form.  It comes to another order of the fields,
as they are, exactly when each definition is that of the field in the form; and the ledger takes the
ids of the definitions, so it remains what it is exactly when none of them is new, be it that of a
sub-field.  The fields themselves are accepted in any order. -/
theorem reorderFields_takes_definitions (hs : s.Reachable) :
    (∀ v t, s.reorderFields v = .ok t →
      ∃ vs fields, v.iterate = .ok vs ∧ fieldsOf vs = .ok fields ∧
        t.schema = { s.schema with fields } ∧ (fields.map (·.id)).Perm s.schema.fieldIds ∧
        (fields.Perm s.schema.fields ↔ ∀ g ∈ fields, s.schema.field? (.str g.id) = some g) ∧
        (∀ id, id ∈ t.issued ↔ id ∈ s.issued ∨ id ∈ t.schema.allFieldIds) ∧
        (t.issued = s.issued ↔ t.schema.allFieldIds ⊆ s.schema.allFieldIds)) ∧
    ∀ v vs fields, v.iterate = .ok vs → fieldsOf vs = .ok fields →
      fields.Perm s.schema.fields →
        s.reorderFields v = .ok ⟨{ s.schema with fields }, s.issued⟩ := by
  refine ⟨fun v t h => ?_, fun v vs fields hvs hfields hperm => ?_⟩
  · obtain ⟨vs, fields, hvs, hfields, hids, hcommit⟩ := reorderFields_eq_ok_iff.mp h
    have ht := committed_of_commit hcommit
    exact ⟨vs, fields, hvs, hfields, schema_of_commit hcommit, hids, hs.sound.perm_fields_iff hids,
      fun id => ht.mem_issued, hs.issued_eq_iff ht⟩
  · exact reorderFields_eq_ok_iff.mpr
      ⟨vs, fields, hvs, hfields, hperm.map _, commit_of_perm hs.sound hs.issued hperm⟩

/-- A question about the age, under a label, and a section with some sub-fields, as objects. -/
def ageAndJobs (label : String) (subFields : List Value) : List Value :=
  [.dict [("id", .str "age"), ("type", .str "number"), ("label", .str label)],
    .dict [("id", .str "jobs"), ("type", .str "repeatable"), ("label", .str "Jobs"),
      ("subFields", .list subFields)]]

/-- A form of such fields. -/
def ageForm (subFields : List Value) : Value :=
  .dict [("title", .str "Staff"), ("fields", .list (ageAndJobs "Age" subFields))]

/-- A sub-field for the employer. -/
def employer : Value := .dict [("id", .str "firm"), ("type", .str "text"), ("label", .str "Firm")]

/-- The fields in the opposite order. -/
theorem reorderFields_takes_definitions_swapped :
    ∃ w, Workspace.new .standard ⟨[], 0⟩ (ageForm [employer]) none = .ok w ∧ w.store.Reachable ∧
      ∃ t, w.store.reorderFields (.list (ageAndJobs "Age" [employer]).reverse) = .ok t ∧
        t.schema.fieldIds = ["jobs", "age"] ∧ t.schema.fields.Perm w.store.schema.fields ∧
        t.issued = w.store.issued := by
  obtain ⟨w, hw, hfields, hids⟩ : ∃ w,
      Workspace.new .standard ⟨[], 0⟩ (ageForm [employer]) none = .ok w ∧
      fieldsOf (ageAndJobs "Age" [employer]).reverse = .ok w.store.schema.fields.reverse ∧
      w.store.schema.fields.reverse.map (·.id) = ["jobs", "age"] := ⟨_, rfl, rfl, rfl⟩
  have hreachable : w.store.Reachable := ⟨.standard, ⟨[], 0⟩, _, none, w, [], hw, rfl⟩
  have hperm := List.reverse_perm w.store.schema.fields
  obtain ⟨-, haccepted⟩ := reorderFields_takes_definitions hreachable
  exact ⟨w, hw, hreachable, _, haccepted _ _ _ rfl hfields hperm, hids, hperm, rfl⟩

/-- A reordering by definitions that were made before the label of a field changed takes the change
back, and one that brings a new sub-field has its id in the ledger. -/
theorem reorderFields_takes_back :
    let change : Workspace.Event :=
      .command (.store (.updateField (.str "age") (.dict [("label", .str "Years")])))
    ∃ w t, Workspace.new .standard ⟨[], 0⟩ (ageForm []) none = .ok w ∧
      (w.after change).store.Reachable ∧
      (w.after change).store.reorderFields (.list (ageAndJobs "Age" [employer])) = .ok t ∧
      (w.after change).store.schema.fields.map (·.label) = ["Years", "Jobs"] ∧
      t.schema.fields.map (·.label) = ["Age", "Jobs"] ∧
      ¬t.schema.fields.Perm (w.after change).store.schema.fields ∧
      (w.after change).store.issued = ["age", "jobs"] ∧ t.issued = ["age", "jobs", "firm"] := by
  intro change
  obtain ⟨w, t, hw, ht, hlabels, hlabelsBack, hissued, hissuedAfter⟩ : ∃ w t,
      Workspace.new .standard ⟨[], 0⟩ (ageForm []) none = .ok w ∧
      (w.after change).store.reorderFields (.list (ageAndJobs "Age" [employer])) = .ok t ∧
      (w.after change).store.schema.fields.map (·.label) = ["Years", "Jobs"] ∧
      t.schema.fields.map (·.label) = ["Age", "Jobs"] ∧
      (w.after change).store.issued = ["age", "jobs"] ∧ t.issued = ["age", "jobs", "firm"] :=
    ⟨_, _, rfl, rfl, rfl, rfl, rfl, rfl⟩
  have hreachable : (w.after change).store.Reachable :=
    ⟨.standard, ⟨[], 0⟩, _, none, w, [change], hw, rfl⟩
  refine ⟨w, t, hw, hreachable, ht, hlabels, hlabelsBack, fun hperm => ?_, hissued, hissuedAfter⟩
  -- A permutation would keep the set of labels.
  have hold := (hperm.map (·.label)).subset (hlabelsBack ▸ List.mem_cons_self)
  rw [hlabels] at hold
  simp at hold

end Store
end Questionnaire
