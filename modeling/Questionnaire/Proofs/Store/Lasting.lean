import Questionnaire.Builder.Editing
import Questionnaire.Proofs.Store.Commit

/-!
# Properties that all fields keep

What an accepted command makes of a form consists of old fields, of fields that are read from what is
handed in, and of fields of the builder's own.  `Lasting` collects what a property of fields needs to
hold of all of them, if all that is handed in is data of a kind.  `Store.all_of_run` says that every
accepted command of the store keeps such a property.
-/

namespace Questionnaire

/-- A property `P` of fields that the commands keep, if they are handed data of the kind `V`. -/
structure Lasting (V : Value → Prop) (P : Field → Prop) : Prop where
  str (s : String) : V (.str s)
  single {v : Value} (hv : V v) (name : String) : V (.dict [(name, v)])
  iterate {v : Value} {vs : List Value} (hv : V v) (h : v.iterate = .ok vs) : ∀ w ∈ vs, V w
  documentMembers {kind : RecordKind} {v : Value} {ms : Members Value} (hv : V v)
    (h : kind.documentMembers v = .ok ms) : V (.dict ms)
  completeChanges {f : Field} {v : Value} {ms : Members Value} (hv : V v)
    (h : Builder.completeChanges f v = .ok ms) : V (.dict ms)
  read {v : Value} {f : Field} (hv : V v) (h : Field.read v = .read f) : P f
  readSchema {v : Value} {fallback : Reading Settings} {s : Schema} (hv : V v)
    (h : Schema.read fallback v = .ok s) : ∀ f ∈ s.fields, P f
  overlaid {f g : Field} {ms : Members Value} (hf : P f) (hms : V (.dict ms))
    (h : Store.overlaid f ms = .read g) : P g
  child {f : Field} (hf : P f) : ∀ k ∈ f.children, P k
  /-- A field of the builder's own. -/
  fresh {f : Field} (hid : f.id ≠ "") (hconditions : f.conditionList = [])
    (hchildren : f.children = []) : P f
  options {f : Field} (hf : P f) (os : List Choice) : P { f with options := some os }
  subFields {f : Field} {ks : List Field} (hf : P f) (hks : ∀ k ∈ ks, P k) :
    P { f with subFields := some ks }
  addCondition {f : Field} {source operator value : Value} {c : Condition} (hf : P f)
    (hsource : V source) (hoperator : V operator) (hvalue : V value)
    (h : Condition.ofMembers [("source_field_id", source), ("operator", operator), ("value", value)] =
      .read c) : P { f with conditions := some (f.conditionList ++ [c]) }
  updateCondition {f : Field} {ms : Members Value} {c : Condition} (hf : P f) (n : Nat)
    (hms : V (.dict ms))
    (h : Condition.ofMembers
      (Members.overlay (((f.conditionList[n]?).map (·.members .document)).getD []) ms) = .read c) :
    P { f with conditions := some (f.conditionList.set n c) }
  removeCondition {f : Field} (hf : P f) (n : Nat) :
    P { f with conditions := some (f.conditionList.eraseIdx n) }

/-- Every top-level field of the form has the property. -/
def Schema.All (P : Field → Prop) (s : Schema) : Prop := ∀ f ∈ s.fields, P f

variable {V : Value → Prop} {P : Field → Prop}

namespace Schema

variable {s : Schema}

/-- A field that is found has the property. -/
theorem All.field? (h : s.All P) {id : Value} {f : Field} (hf : s.field? id = some f) : P f :=
  h f (List.mem_of_find?_eq_some hf)

/-- A schema keeps the property when a field of the property is put into it. -/
theorem All.putField (h : s.All P) (id : String) {g : Field} (hg : P g) : (s.putField id g).All P := by
  intro f hf
  obtain ⟨k, hk, rfl⟩ := List.mem_map.mp hf
  split
  · exact hg
  · exact h k hk

end Schema

namespace Store

variable {s t : Store}

/-- What a command hands to the store. -/
def Command.payloads : Command → List Value
  | .setTitle v | .setDescription v | .addField v | .removeField v | .reorderFields v
  | .updateSettings v | .importSchema v => [v]
  | .updateField id changes => [id, changes]
  | .reset => []

/-- A commit keeps the property. -/
theorem all_of_commit {schema : Schema} (h : s.commit schema = .ok t) (hschema : schema.All P) :
    t.schema.All P := by
  obtain ⟨_, _, rfl⟩ := commit_eq_ok_iff.mp h
  exact hschema

/-- Appending a field of the property keeps it. -/
theorem all_of_append (hs : s.schema.All P) {f : Field} (hf : P f) (h : s.append f = .ok t) :
    t.schema.All P := by
  refine all_of_commit h fun g hg => ?_
  rcases List.mem_append.mp hg with hg | hg
  · exact hs g hg
  · rw [List.mem_singleton.mp hg]
    exact hf

/-- Removing a field keeps the property. -/
theorem all_of_removeField (hs : s.schema.All P) {id : Value} (h : s.removeField id = .ok t) :
    t.schema.All P := by
  obtain ⟨_, hschema, h⟩ := Outcome.bind_eq_ok_iff.mp h
  obtain ⟨_, rfl⟩ := without_eq_ok_iff.mp hschema
  exact all_of_commit h fun f hf => hs f (List.mem_of_mem_filter hf)

/-- Whatever the property, a new form has it, since it has no fields. -/
theorem all_of_newSchema {c : Config} {schema : Schema} (h : c.newSchema = .ok schema) :
    schema.All P := by
  intro f hf
  rw [fields_newSchema h] at hf
  cases hf

/-- After a reset no field is left to lack it. -/
theorem all_of_reset {c : Config} (h : reset c = .ok t) : t.schema.All P := by
  obtain ⟨schema, hschema, h⟩ := Outcome.bind_eq_ok_iff.mp h
  obtain ⟨_, rfl⟩ := replace_eq_ok_iff.mp h
  exact all_of_newSchema (Outcome.ofUnread_eq_ok_iff.mp hschema)

variable (hP : Lasting V P)
include hP

/-- A field that is read has the property of what it is read from. -/
theorem property_of_fieldOf {v : Value} (hv : V v) {f : Field} (h : fieldOf v = .ok f) : P f := by
  unfold fieldOf at h
  split at h
  · cases h
    exact hP.read hv ‹_›
  · exact absurd h Outcome.refuse_ne_ok

/-- Fields that are read one after another have the property of what they are read from. -/
theorem property_of_fieldsOf {vs : List Value} (hvs : ∀ v ∈ vs, V v) {fs : List Field}
    (h : fieldsOf vs = .ok fs) : ∀ f ∈ fs, P f := by
  induction vs generalizing fs with
  | nil =>
    cases h
    exact nofun
  | cons v vs ih =>
    rw [List.forall_mem_cons] at hvs
    obtain ⟨f, hf, h⟩ := Outcome.bind_eq_ok_iff.mp h
    obtain ⟨rest, hrest, h⟩ := Outcome.bind_eq_ok_iff.mp h
    obtain rfl := Outcome.pure_eq_ok_iff.mp h
    exact List.forall_mem_cons.mpr ⟨property_of_fieldOf hP hvs.1 hf, ih hvs.2 hrest⟩

/-- An update keeps the property if the changes have it. -/
theorem all_of_updateField (hs : s.schema.All P) {id changes : Value} (hchanges : V changes)
    (h : s.updateField id changes = .ok t) : t.schema.All P := by
  obtain ⟨_, hschema, h⟩ := Outcome.bind_eq_ok_iff.mp h
  obtain ⟨f, members, g, hf, hmembers, hread, rfl⟩ := updated_eq_ok_iff.mp hschema
  have hg := hP.overlaid (hs.field? hf) (hP.documentMembers hchanges hmembers) hread
  exact all_of_commit h (hs.putField _ hg)

/-- Reordering keeps the property if the given fields have it. -/
theorem all_of_reorderFields {v : Value} (hv : V v) (h : s.reorderFields v = .ok t) :
    t.schema.All P := by
  obtain ⟨_, hschema, h⟩ := Outcome.bind_eq_ok_iff.mp h
  obtain ⟨vs, fields, hvs, hfields, _, rfl⟩ := reordered_eq_ok_iff.mp hschema
  exact all_of_commit h (property_of_fieldsOf hP (hP.iterate hv hvs) hfields)

/-- An import keeps the property if the given schema has it. -/
theorem all_of_importSchema {c : Config} {v : Value} (hv : V v) (h : importSchema c v = .ok t) :
    t.schema.All P := by
  obtain ⟨schema, hschema, h⟩ := Outcome.bind_eq_ok_iff.mp h
  obtain ⟨_, rfl⟩ := replace_eq_ok_iff.mp h
  exact hP.readSchema hv (handed_eq_ok_iff.mp hschema)

/-- A store begins with fields that have the property, if it is given a form of such data or none. -/
theorem all_of_new {c : Config} {v? : Option Value} (hv : ∀ v, v? = some v → V v)
    (h : Store.new c v? = .ok t) : t.schema.All P := by
  obtain ⟨schema, hschema, h⟩ := Outcome.bind_eq_ok_iff.mp h
  cases v? with
  | none =>
    obtain rfl := Outcome.pure_eq_ok_iff.mp h
    exact all_of_newSchema (Outcome.ofUnread_eq_ok_iff.mp hschema)
  | some v => exact all_of_importSchema hP (hv v rfl) h

/-- An accepted command that is handed data of the kind keeps the property. -/
theorem all_of_run {c : Config} {command : Command} (hs : s.schema.All P)
    (hpayloads : ∀ v ∈ command.payloads, V v) (h : s.run c command = .ok t) : t.schema.All P := by
  -- Fields come from the payloads of the command or were there before.
  cases command with
  | setTitle title =>
    obtain ⟨_, -, hcommit⟩ := exists_of_setTitle h
    exact all_of_commit hcommit hs
  | setDescription description =>
    obtain ⟨_, -, hcommit⟩ := exists_of_setDescription h
    exact all_of_commit hcommit hs
  | addField field =>
    obtain ⟨f, hf, h⟩ := Outcome.bind_eq_ok_iff.mp h
    have hfield := hpayloads field (by simp [Command.payloads])
    exact all_of_append hs (property_of_fieldOf hP hfield hf) h
  | updateField id changes =>
    exact all_of_updateField hP hs (hpayloads changes (by simp [Command.payloads])) h
  | removeField id => exact all_of_removeField hs h
  | reorderFields fields =>
    exact all_of_reorderFields hP (hpayloads fields (by simp [Command.payloads])) h
  | updateSettings changes =>
    obtain ⟨_, hschema, h⟩ := Outcome.bind_eq_ok_iff.mp h
    obtain ⟨_, settings, _, _, rfl⟩ := resettled_eq_ok_iff.mp hschema
    exact all_of_commit h hs
  | reset => exact all_of_reset h
  | importSchema schema =>
    exact all_of_importSchema hP (hpayloads schema (by simp [Command.payloads])) h

end Store
end Questionnaire
