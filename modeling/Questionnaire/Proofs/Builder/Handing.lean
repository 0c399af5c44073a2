import Questionnaire.Proofs.Builder.Lasting
import Questionnaire.Proofs.Form.Handing

/-!
# Changes that are handed on

Commands of the builder make a part of a form anew and put it in its place.  The part could as well
be handed on as a change: as an option, a condition or a sub-field among the members of a field that
is updated, or as a field that is added or put in another order.  In a lawful store, which has a sound
form of fields with ids, both come to the same, be they accepted or refused, and in whatever spelling
the part is handed on (`Builder.updateField_options`, `Store.updateField_conditions` and the lemmas
around them).
-/

namespace Questionnaire

open Reading

namespace Store

/-- The form is sound, and all its fields have ids. -/
structure Lawful (s : Store) : Prop where
  sound : s.schema.Sound
  named : s.schema.All Field.Named

/-- Every field of the form of a lawful store has an id, wherever it stands. -/
theorem Lawful.named_of_has {s : Store} (hs : s.Lawful) {place : Place} (hplace : s.schema.Has place) :
    place.field.Named := by
  obtain ⟨_ | p, f⟩ := place
  · exact hs.named f hplace
  · obtain ⟨hp, hf⟩ : p ∈ s.schema.fields ∧ f ∈ p.children := hplace
    exact (Field.named_iff.mp (hs.named p hp)).2 f hf

end Store

/-- Whatever commands are handed, they keep fields with ids. -/
theorem Field.lasting_named : Lasting (fun _ => True) Named where
  str _ := trivial
  single _ _ := trivial
  iterate _ _ _ _ := trivial
  documentMembers _ _ := trivial
  completeChanges _ _ := trivial
  read _ h := named_of_read h
  readSchema _ h f hf := by
    obtain ⟨_, _, _, _, _, _, _, _, hread⟩ := Schema.exists_item_of_read h f hf
    exact named_of_read hread
  overlaid _ _ h := named_of_read h
  child hf := (named_iff.mp hf).2
  fresh hid _ hchildren := by
    refine named_iff.mpr ⟨hid, ?_⟩
    rw [hchildren]
    exact nofun
  options hf _ := hf.congr rfl rfl
  subFields hf hks := hf.with_subFields hks
  addCondition hf _ _ _ _ := hf.congr rfl rfl
  updateCondition hf _ _ _ := hf.congr rfl rfl
  removeCondition hf _ := hf.congr rfl rfl

/-- An accepted command of the store leads from a lawful store to a lawful one. -/
theorem Store.Lawful.run {s t : Store} (hs : s.Lawful) {c : Config} {command : Store.Command}
    (h : s.run c command = .ok t) : t.Lawful := by
  refine ⟨?_, all_of_run Field.lasting_named hs.named (fun _ _ => trivial) h⟩
  have ht := run_eq_ok h
  split at ht
  · exact ht.sound
  · exact ht.sound

/-- An accepted command of the builder leads from a lawful store to a lawful one. -/
theorem Store.Lawful.gives {s t : Store} (hs : s.Lawful) {c : Config} {command : Builder.Command}
    {ids ids' : IdSource} {e : Builder.Effect} (h : (Builder.run c s command).Gives ids e ids')
    (ht : e.store? = some t) : t.Lawful := by
  refine ⟨?_, Builder.all_of_run Field.lasting_named hs.named (fun _ _ => trivial) h ht⟩
  have ht := Builder.run_gives h ht
  split at ht
  · exact ht.sound
  · exact ht.sound

/-! ### Fields -/

namespace Store

variable {s : Store}

/-- A field handed over as a record is the field. -/
theorem fieldOf_asRecord {f : Field} (hf : f.Named) : fieldOf f.asRecord = .ok f := by
  unfold fieldOf
  rw [Field.read_asRecord hf]

/-- Fields handed over together as records are the fields. -/
theorem fieldsOf_asRecord {fs : List Field} (hfs : ∀ f ∈ fs, f.Named) :
    fieldsOf (fs.map Field.asRecord) = .ok fs := by
  induction fs with
  | nil => rfl
  | cons f fs ih =>
    obtain ⟨hf, hfs⟩ := List.forall_mem_cons.mp hfs
    rw [List.map_cons, fieldsOf, fieldOf_asRecord hf, ih hfs]
    rfl

/-- A field that is handed on is added as it is. -/
theorem addField_asRecord {f : Field} (hf : f.Named) : s.addField f.asRecord = s.append f := by
  unfold addField
  rw [fieldOf_asRecord hf]
  rfl

/-- Fields that are handed on in another order are taken as they are. -/
theorem reorderFields_asRecord {fs : List Field} (hfs : ∀ f ∈ fs, f.Named)
    (hperm : fs.Perm s.schema.fields) :
    s.reorderFields (.list (fs.map Field.asRecord)) = s.commit { s.schema with fields := fs } := by
  have hids : (fs.map (·.id)).isPerm s.schema.fieldIds := List.isPerm_iff.mpr (hperm.map _)
  have hreordered : s.reordered (.list (fs.map Field.asRecord)) =
      .ok { s.schema with fields := fs } := by
    show (do
      let fields ← fieldsOf (fs.map Field.asRecord)
      if (fields.map (·.id)).isPerm s.schema.fieldIds then .ok { s.schema with fields }
      else refuse .notPermutation : Outcome Schema) = _
    rw [fieldsOf_asRecord hfs]
    exact if_pos hids
  unfold reorderFields
  rw [hreordered]
  rfl

/-- A member that is handed on is put over a top-level field. -/
theorem updateField_member (hs : s.schema.Sound) {f g : Field} (hf : f ∈ s.schema.fields)
    {name : String} {v : Value}
    (hname : RecordKind.field.documentMembers (.dict [(name, v)]) = .ok [(name, v)])
    (hread : overlaid f [(name, v)] = .read g) :
    s.updateField (.str f.id) (.dict [(name, v)]) = s.putAt ⟨none, f⟩ g := by
  have hupdated : s.updated (.str f.id) (.dict [(name, v)]) = .ok (s.schema.putField f.id g) :=
    updated_eq_ok_iff.mpr ⟨f, _, g, hs.field?_id hf, hname, hread, rfl⟩
  unfold updateField
  rw [hupdated]
  rfl

/-- What is read of sub-fields that are handed on is put in the place of those of the section. -/
theorem updateField_subFields (hs : s.Lawful) {p : Field} (hp : p ∈ s.schema.fields)
    {vs : List Value} {gs : List Field} (hvs : itemsFrom Field.read 0 vs = .read gs) :
    s.updateField (.str p.id) (.dict [("subFields", .list vs)]) =
      s.putAt ⟨none, p⟩ { p with subFields := some gs } :=
  updateField_member hs.sound hp rfl (Field.overlaid_subFields (hs.named p hp) hvs)

/-- What is read of conditions that are handed on is put in the place of those of the field. -/
theorem updateField_conditions (hs : s.Lawful) {f : Field} (hf : f ∈ s.schema.fields)
    {vs : List Value} {ks : List Condition} (hvs : itemsFrom Condition.read 0 vs = .read ks) :
    s.updateField (.str f.id) (.dict [("conditions", .list vs)]) = Builder.putConditions s f ks :=
  updateField_member hs.sound hf rfl (Field.overlaid_conditions (hs.named f hf) hvs)

end Store

namespace Builder

variable {s : Store}

/-- A new field has an id, and nothing below it. -/
theorem named_of_newField {c : Config} {type : FieldType} {label : String} {top : Bool}
    {ids ids' : IdSource} {f : Field} (h : (newField c s type label top).Gives ids f ids') :
    f.Named :=
  property_of_newField Field.lasting_named h

/-- A member other than the constraints is put over a field as it is, wherever the field stands. -/
theorem updateField_member (hs : s.schema.Sound) {place : Place} (hplace : s.schema.Has place)
    {name : String} {v : Value} {g : Field}
    (hname : RecordKind.field.documentMembers (.dict [(name, v)]) = .ok [(name, v)])
    (hcomplete : completeChanges place.field (.dict [(name, v)]) = .ok [(name, v)])
    (hconditions : place.owner?.isSome → name ≠ "conditions")
    (hread : Store.overlaid place.field [(name, v)] = .read g) :
    updateField s (.str place.field.id) (.dict [(name, v)]) = s.putAt place g := by
  have hlocate := hs.locate_eq_ok_iff.mpr ⟨hplace, rfl⟩
  unfold updateField
  rw [hlocate]
  -- At the top the field is read again with the new member; in a section, the section with the new
  -- sub-field.
  obtain ⟨_ | p, f⟩ := place
  · have hf : f ∈ s.schema.fields := hplace
    show (completeChanges f (.dict [(name, v)]) >>= fun ms => s.updateField (.str f.id) (.dict ms)) = _
    rw [hcomplete]
    exact Store.updateField_member hs hf hname hread
  · obtain ⟨hp, hf⟩ : p ∈ s.schema.fields ∧ f ∈ p.children := hplace
    have hunconditional : ¬(Members.get? [(name, v)] "conditions").any (·.isTruthy) := by
      rw [Members.get?_cons, if_neg (hconditions rfl)]
      exact Bool.false_ne_true
    have hchild : p.requireChild (.str f.id) = .ok f := by
      unfold Field.requireChild
      rw [hs.child?_id hp hf]
    show updateSubField s (.str p.id) (.str f.id) (.dict [(name, v)]) = _
    unfold updateSubField
    rw [hs.sectionOf_owner hp hf]
    show (p.requireChild (.str f.id) >>= _) = _
    rw [hchild]
    show (completeChanges f (.dict [(name, v)]) >>= _) = _
    rw [hcomplete]
    show (if (Members.get? [(name, v)] "conditions").any (·.isTruthy) then _ else _) = _
    rw [if_neg hunconditional, hread]

/-- What is read of options that are handed on is put in the place of those of the field. -/
theorem updateField_options (hs : s.Lawful) {place : Place} (hplace : s.schema.Has place)
    {vs : List Value} {os : List Choice} (hvs : itemsFrom Choice.read 0 vs = .read os) :
    updateField s (.str place.field.id) (.dict [("options", .list vs)]) = putOptions s place os :=
  updateField_member hs.sound hplace rfl rfl (fun _ => by decide)
    (Field.overlaid_options (hs.named_of_has hplace) hvs)

end Builder

/-! ### Moves -/

/-- A field among others, at whatever position, and the others are the fields of the form. -/
theorem Schema.Sound.perm_moved {schema : Schema} (h : schema.Sound) {f : Field}
    (hf : f ∈ schema.fields) (n : Nat) :
    ((schema.fields.filter (·.id ≠ f.id)).take n ++
      f :: (schema.fields.filter (·.id ≠ f.id)).drop n).Perm schema.fields := by
  obtain ⟨before, after, hsplit⟩ := List.append_of_mem hf
  have hnodup := h.nodup_ids
  rw [hsplit] at hnodup
  rw [hsplit, filter_at_key hnodup]
  refine List.perm_middle.trans ?_
  rw [List.take_append_drop]
  exact List.perm_middle.symm

end Questionnaire
