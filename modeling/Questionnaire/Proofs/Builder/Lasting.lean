import Questionnaire.Proofs.Builder.Commit
import Questionnaire.Proofs.Builder.NewField
import Questionnaire.Proofs.Builder.Place
import Questionnaire.Proofs.Store.Lasting

/-!
# Properties that all fields keep under the builder

The builder makes parts of its own, reads parts from its payloads, and moves parts around.  A property
of fields that lasts (`Lasting`) is kept by every accepted command of the builder that is handed data
of the kind (`Builder.all_of_run`).
-/

namespace Questionnaire.Builder

/-- What a command hands to the store or to the builder. -/
def Command.payloads : Command → List Value
  | .store command => command.payloads
  | .exportSchema => []
  | .generateId v | .addField v | .removeField v | .addOption v | .addRow v | .addColumn v
  | .availableOperators v => [v]
  | .moveField v w | .updateField v w | .addSubField v w | .removeSubField v w | .removeOption v w
  | .removeCondition v w => [v, w]
  | .updateConstraint u v w | .updateSubField u v w | .updateOption u v w
  | .updateCondition u v w => [u, v, w]
  | .addCondition id source operator value => [id, source, operator, value]

variable {V : Value → Prop} {P : Field → Prop} {s t : Store}

/-! ### Places -/

section Place

variable (hs : s.schema.All P)
include hs

theorem property_of_sectionOf {id : Value} {f : Field} (h : s.schema.sectionOf id = .ok f) : P f :=
  hs f (Schema.of_sectionOf h).1

theorem property_of_conditioned {id : Value} {f : Field} (h : s.schema.conditioned id = .ok f) :
    P f :=
  hs f (Schema.of_conditioned h).1

theorem all_of_putTop {f g : Field} (hg : P g) (h : s.putAt ⟨none, f⟩ g = .ok t) :
    t.schema.All P :=
  Store.all_of_commit h (hs.putField f.id hg)

theorem all_of_moveField {id index : Value} (h : moveField s id index = .ok t) :
    t.schema.All P := by
  unfold moveField at h
  split at h
  · exact absurd h Outcome.refuse_ne_ok
  · obtain ⟨n, _, h⟩ := Outcome.bind_eq_ok_iff.mp h
    refine Store.all_of_commit h fun g hg => ?_
    rcases List.mem_append.mp hg with hg | hg
    · exact hs g (List.mem_of_mem_filter (List.mem_of_mem_take hg))
    · rcases List.mem_cons.mp hg with rfl | hg
      · exact hs.field? ‹_›
      · exact hs g (List.mem_of_mem_filter (List.mem_of_mem_drop hg))

end Place

variable (hP : Lasting V P)
include hP

theorem property_of_requireChild {f g : Field} (hf : P f) {id : Value}
    (h : f.requireChild id = .ok g) : P g :=
  hP.child hf g (Field.of_requireChild h).1

variable (hs : s.schema.All P)
include hs

/-- The field at a place has the property, and so has the section that it stands in. -/
theorem property_of_locate {id : Value} {place : Place} (h : s.schema.locate id = .ok place) :
    P place.field ∧ ∀ p, place.owner? = some p → P p := by
  obtain ⟨hplace, -⟩ := Schema.of_locate h
  obtain ⟨_ | p, f⟩ := place
  · exact ⟨hs f hplace, nofun⟩
  · obtain ⟨hp, hf⟩ : p ∈ s.schema.fields ∧ f ∈ p.children := hplace
    refine ⟨hP.child (hs p hp) f hf, ?_⟩
    rintro q ⟨⟩
    exact hs p hp

/-- A field with the property may be put in any place. -/
theorem all_of_putAt {place : Place} (hplace : ∀ p, place.owner? = some p → P p) {g : Field}
    (hg : P g) (h : s.putAt place g = .ok t) : t.schema.All P := by
  unfold Store.putAt at h
  split at h
  · exact Store.all_of_commit h (hs.putField _ hg)
  · rename_i p hp
    have hp := hplace p hp
    refine Store.all_of_commit h (hs.putField _ (hP.subFields hp fun k hk => ?_))
    obtain ⟨f, hf, rfl⟩ := List.mem_map.mp hk
    split
    · exact hg
    · exact hP.child hp f hf

/-! ### Changes without new ids -/

theorem all_of_updateSubField {parent id changes : Value} (hchanges : V changes)
    (h : updateSubField s parent id changes = .ok t) : t.schema.All P := by
  obtain ⟨p, hp, h⟩ := Outcome.bind_eq_ok_iff.mp h
  obtain ⟨f, hf, h⟩ := Outcome.bind_eq_ok_iff.mp h
  obtain ⟨members, hmembers, h⟩ := Outcome.bind_eq_ok_iff.mp h
  have hp := property_of_sectionOf hs hp
  have hf := property_of_requireChild hP hp hf
  split at h
  · exact absurd h Outcome.refuse_ne_ok
  · split at h
    · refine all_of_putAt hP hs ?_ (hP.overlaid hf (hP.completeChanges hchanges hmembers) ‹_›) h
      rintro q ⟨⟩
      exact hp
    · exact absurd h Outcome.refuse_ne_ok

theorem all_of_updateField {id changes : Value} (hchanges : V changes)
    (h : updateField s id changes = .ok t) : t.schema.All P := by
  obtain ⟨place, _, h⟩ := Outcome.bind_eq_ok_iff.mp h
  split at h
  · exact all_of_updateSubField hP hs hchanges h
  · obtain ⟨members, hmembers, h⟩ := Outcome.bind_eq_ok_iff.mp h
    exact Store.all_of_updateField hP hs (hP.completeChanges hchanges hmembers) h

theorem all_of_updateConstraint {id name value : Value} (hvalue : V value)
    (h : updateConstraint s id name value = .ok t) : t.schema.All P := by
  obtain ⟨_, _, h⟩ := Outcome.bind_eq_ok_iff.mp h
  split at h
  · exact all_of_updateField hP hs (hP.single (hP.single hvalue _) _) h
  · obtain ⟨_, _, h⟩ := Outcome.bind_eq_ok_iff.mp h
    exact absurd h Outcome.refuse_ne_ok

theorem all_of_removeSubField {parent id : Value} (h : removeSubField s parent id = .ok t) :
    t.schema.All P := by
  obtain ⟨p, hp, h⟩ := Outcome.bind_eq_ok_iff.mp h
  obtain ⟨f, _, h⟩ := Outcome.bind_eq_ok_iff.mp h
  have hp := property_of_sectionOf hs hp
  exact all_of_putTop hs (hP.subFields hp fun k hk => hP.child hp k (List.mem_of_mem_filter hk)) h

theorem all_of_removeField {id : Value} (h : removeField s id = .ok t) : t.schema.All P := by
  obtain ⟨place, _, h⟩ := Outcome.bind_eq_ok_iff.mp h
  split at h
  · exact all_of_removeSubField hP hs h
  · exact Store.all_of_removeField hs h

theorem all_of_putOptions {id : Value} {place : Place} (hplace : s.schema.locate id = .ok place)
    {options : List Choice} (h : putOptions s place options = .ok t) : t.schema.All P := by
  obtain ⟨hfield, howner⟩ := property_of_locate hP hs hplace
  exact all_of_putAt hP hs howner (hP.options hfield options) h

theorem all_of_updateOption {id option label : Value} (h : updateOption s id option label = .ok t) :
    t.schema.All P := by
  obtain ⟨place, hplace, h⟩ := Outcome.bind_eq_ok_iff.mp h
  obtain ⟨o, _, h⟩ := Outcome.bind_eq_ok_iff.mp h
  obtain ⟨value, _, h⟩ := Outcome.bind_eq_ok_iff.mp h
  exact all_of_putOptions hP hs hplace h

theorem all_of_removeOption {id option : Value} (h : removeOption s id option = .ok t) :
    t.schema.All P := by
  obtain ⟨place, hplace, h⟩ := Outcome.bind_eq_ok_iff.mp h
  obtain ⟨o, _, h⟩ := Outcome.bind_eq_ok_iff.mp h
  exact all_of_putOptions hP hs hplace h

/-! ### Conditions -/

theorem all_of_addCondition {id source operator value : Value} (hsource : V source)
    (hoperator : V operator) (hvalue : V value) {n : Nat}
    (h : addCondition s id source operator value = .ok (t, n)) : t.schema.All P := by
  obtain ⟨f, hf, h⟩ := Outcome.bind_eq_ok_iff.mp h
  obtain ⟨named, hnamed, h⟩ := Outcome.bind_eq_ok_iff.mp h
  obtain ⟨condition, hcondition, h⟩ := Outcome.bind_eq_ok_iff.mp h
  obtain ⟨t', ht, h⟩ := Outcome.bind_eq_ok_iff.mp h
  obtain ⟨rfl, _⟩ := Prod.mk.inj (Outcome.pure_eq_ok_iff.mp h)
  -- The source and the operator are either the given values or texts of the form itself.
  have hnamed : V named := by
    unfold conditionSource at hnamed
    split at hnamed
    · split at hnamed
      · exact absurd hnamed Outcome.refuse_ne_ok
      · cases hnamed
        exact hP.str _
    · cases hnamed
      exact hsource
  have hoffered : V (conditionOperator s.schema named operator) := by
    unfold conditionOperator
    split
    · split
      · exact hP.str _
      · exact hP.str _
    · exact hoperator
  -- What has been read from the three is a condition of the property.
  have hread := Reading.outcome_eq_ok_iff.mp (Outcome.ofUnread_eq_ok_iff.mp hcondition)
  have hf := property_of_conditioned hs hf
  exact all_of_putTop hs (hP.addCondition hf hnamed hoffered hvalue hread) ht

theorem all_of_updateCondition {id index changes : Value} (hchanges : V changes)
    (h : updateCondition s id index changes = .ok t) : t.schema.All P := by
  obtain ⟨f, hf, h⟩ := Outcome.bind_eq_ok_iff.mp h
  obtain ⟨n, _, h⟩ := Outcome.bind_eq_ok_iff.mp h
  obtain ⟨members, hmembers, h⟩ := Outcome.bind_eq_ok_iff.mp h
  have hmembers := hP.documentMembers hchanges hmembers
  have hf := property_of_conditioned hs hf
  split at h
  · exact all_of_putTop hs (hP.updateCondition hf n hmembers ‹_›) h
  · exact absurd h Outcome.refuse_ne_ok

theorem all_of_removeCondition {id index : Value} (h : removeCondition s id index = .ok t) :
    t.schema.All P := by
  obtain ⟨f, hf, h⟩ := Outcome.bind_eq_ok_iff.mp h
  obtain ⟨n, _, h⟩ := Outcome.bind_eq_ok_iff.mp h
  exact all_of_putTop hs (hP.removeCondition (property_of_conditioned hs hf) n) h

/-! ### Changes with new ids -/

variable {c : Config} {new : String} {ids ids' : IdSource}

omit hs in
/-- A new field has an id, no conditions and nothing below it. -/
theorem property_of_newField {type : FieldType} {label : String} {top : Bool} {f : Field}
    (h : (newField c s type label top).Gives ids f ids') : P f := by
  obtain ⟨id, _, options, _, _, hid, rfl⟩ := newField_gives_iff.mp h
  refine hP.fresh hid ?_ ?_
  · cases top <;> rfl
  · cases type <;> rfl

theorem all_of_addField {type : Value} (h : (addField c s type).Gives ids (t, new) ids') :
    t.schema.All P := by
  unfold addField at h
  simp only [Drawing.gives_bind_iff, Drawing.gives_lift_iff, Drawing.gives_pure_iff] at h
  obtain ⟨type, _, _, f, _, hf, t', _, ⟨ht, _⟩, h, _⟩ := h
  obtain ⟨rfl, _⟩ := Prod.mk.inj h
  exact Store.all_of_append hs (property_of_newField hP hf) ht

theorem all_of_addSubField {parent type : Value}
    (h : (addSubField c s parent type).Gives ids (t, new) ids') : t.schema.All P := by
  unfold addSubField at h
  simp only [Drawing.gives_bind_iff, Drawing.gives_lift_iff, Drawing.gives_pure_iff,
    Drawing.gives_guard_iff] at h
  obtain ⟨p, _, ⟨hp, _⟩, type, _, _, _, f, _, hf, t', _, ⟨ht, _⟩, h, _⟩ := h
  obtain ⟨rfl, _⟩ := Prod.mk.inj h
  have hp := property_of_sectionOf hs hp
  refine all_of_putTop hs (hP.subFields hp fun k hk => ?_) ht
  rcases List.mem_append.mp hk with hk | hk
  · exact hP.child hp k hk
  · rw [List.mem_singleton.mp hk]
    exact property_of_newField hP hf

theorem all_of_addNumbered {id : Value} {place : Place} (hplace : s.schema.locate id = .ok place)
    {word title : String} {n : Nat} {isColumn : Option Bool}
    (h : (addNumbered c s place word title n isColumn).Gives ids (t, new) ids') :
    t.schema.All P := by
  unfold addNumbered at h
  simp only [Drawing.gives_bind_iff, Drawing.gives_lift_iff, Drawing.gives_pure_iff] at h
  obtain ⟨id, _, _, t', _, ⟨ht, _⟩, h, _⟩ := h
  obtain ⟨rfl, _⟩ := Prod.mk.inj h
  exact all_of_putOptions hP hs hplace ht

theorem all_of_addOption {id : Value} (h : (addOption c s id).Gives ids (t, new) ids') :
    t.schema.All P := by
  obtain ⟨place, _, hplace, h⟩ := Drawing.gives_bind_iff.mp h
  exact all_of_addNumbered hP hs (Drawing.gives_lift_iff.mp hplace).1 h

theorem all_of_addRow {id : Value} (h : (addRow c s id).Gives ids (t, new) ids') :
    t.schema.All P := by
  obtain ⟨place, _, hplace, h⟩ := Drawing.gives_bind_iff.mp h
  obtain ⟨_, h⟩ := Drawing.gives_guard_iff.mp h
  exact all_of_addNumbered hP hs (Drawing.gives_lift_iff.mp hplace).1 h

theorem all_of_addColumn {id : Value} (h : (addColumn c s id).Gives ids (t, new) ids') :
    t.schema.All P := by
  obtain ⟨place, _, hplace, h⟩ := Drawing.gives_bind_iff.mp h
  obtain ⟨_, h⟩ := Drawing.gives_guard_iff.mp h
  exact all_of_addNumbered hP hs (Drawing.gives_lift_iff.mp hplace).1 h

/-! ### Commands -/

/-- An accepted command that is handed data of the kind keeps the property. -/
theorem all_of_run {command : Command} (hpayloads : ∀ v ∈ command.payloads, V v) {e : Effect}
    (h : (run c s command).Gives ids e ids') (ht : e.store? = some t) : t.schema.All P := by
  -- As for commits, command by command, with the payloads of the command in the hypothesis.
  cases command with
  | store command => exact Store.all_of_run hP hs hpayloads (store_of_gives_silent h ht)
  | exportSchema =>
    obtain ⟨rfl, _⟩ := Drawing.gives_pure_iff.mp h
    cases ht
  | moveField id index => exact all_of_moveField hs (store_of_gives_silent h ht)
  -- What only answers proposes no store.
  | generateId taken =>
    rw [store?_of_gives_answering h] at ht
    cases ht
  | addField type =>
    obtain ⟨_, _, h⟩ := store_of_gives_named h ht
    exact all_of_addField hP hs h
  | updateField id changes =>
    have hchanges := hpayloads changes (by simp [Command.payloads])
    exact all_of_updateField hP hs hchanges (store_of_gives_silent h ht)
  | updateConstraint id name value =>
    have hvalue := hpayloads value (by simp [Command.payloads])
    exact all_of_updateConstraint hP hs hvalue (store_of_gives_silent h ht)
  | removeField id => exact all_of_removeField hP hs (store_of_gives_silent h ht)
  | addSubField parent type =>
    obtain ⟨_, _, h⟩ := store_of_gives_named h ht
    exact all_of_addSubField hP hs h
  | updateSubField parent id changes =>
    have hchanges := hpayloads changes (by simp [Command.payloads])
    exact all_of_updateSubField hP hs hchanges (store_of_gives_silent h ht)
  | removeSubField parent id => exact all_of_removeSubField hP hs (store_of_gives_silent h ht)
  | addOption id =>
    obtain ⟨_, _, h⟩ := store_of_gives_named h ht
    exact all_of_addOption hP hs h
  | updateOption id option label => exact all_of_updateOption hP hs (store_of_gives_silent h ht)
  | removeOption id option => exact all_of_removeOption hP hs (store_of_gives_silent h ht)
  | addRow id =>
    obtain ⟨_, _, h⟩ := store_of_gives_named h ht
    exact all_of_addRow hP hs h
  | addColumn id =>
    obtain ⟨_, _, h⟩ := store_of_gives_named h ht
    exact all_of_addColumn hP hs h
  | availableOperators source =>
    rw [store?_of_gives_answering (f := fun os : List Operator => .texts (os.map (·.name))) h] at ht
    cases ht
  | addCondition id source operator value =>
    obtain ⟨⟨t', n⟩, _, ho, h⟩ := Drawing.gives_bind_iff.mp h
    obtain ⟨rfl, _⟩ := Drawing.gives_pure_iff.mp h
    obtain rfl : t' = t := Option.some.inj ht
    simp only [Command.payloads, List.forall_mem_cons] at hpayloads
    obtain ⟨_, hsource, hoperator, hvalue, _⟩ := hpayloads
    exact all_of_addCondition hP hs hsource hoperator hvalue (Drawing.gives_lift_iff.mp ho).1
  | updateCondition id index changes =>
    have hchanges := hpayloads changes (by simp [Command.payloads])
    exact all_of_updateCondition hP hs hchanges (store_of_gives_silent h ht)
  | removeCondition id index =>
    exact all_of_removeCondition hP hs (store_of_gives_silent h ht)

end Questionnaire.Builder
