import Questionnaire.Proofs.Form.Attributes
import Questionnaire.Proofs.Outcome
import Questionnaire.Store.Basic

/-!
# What an accepted command of the store does

There are two ways in which a store gets its form: it takes it up within the lifetime of its ledger
(`Store.Committed`), or with a new ledger (`Store.Begun`).  `run_eq_ok` says that each accepted
command ends in one of them, and that only a reset and an import begin a new ledger.
`committed_iff` and `begun_iff` say what this means for the form and the ledger.
-/

namespace Questionnaire

namespace Store

/-- The form of `t` was taken up by `s`, whose ledger goes on. -/
def Committed (s t : Store) : Prop := s.commit t.schema = .ok t

/-- The form of `t` was taken up with a new ledger. -/
def Begun (t : Store) : Prop := replace t.schema = .ok t

/-! ### Forms and ledgers -/

/-- An identifier is retired when it was issued and is no longer in use. -/
theorem mem_retired {s : Store} {id : String} :
    id ∈ s.retired ↔ id ∈ s.issued ∧ id ∉ s.schema.allFieldIds := by
  simp [retired]

/-- A commit asks for a sound schema without retired identifiers, and adds the identifiers to the
ledger. -/
theorem commit_eq_ok_iff {s t : Store} {schema : Schema} :
    s.commit schema = .ok t ↔
      schema.Sound ∧ (∀ id ∈ schema.allFieldIds, id ∉ s.retired) ∧
        t = ⟨schema, record s.issued schema.allFieldIds⟩ := by
  unfold commit
  rw [← and_assoc, show (schema.Sound ∧ ∀ id ∈ schema.allFieldIds, id ∉ s.retired) ↔ _ from
    checkFields_eq_ok_iff.symm]
  cases checkFields schema.fields s.retired with
  | error r => simp [refuse]
  | ok u => simp [eq_comm]

/-- A replacement asks for a sound schema, and starts a ledger. -/
theorem replace_eq_ok_iff {t : Store} {schema : Schema} :
    replace schema = .ok t ↔ schema.Sound ∧ t = ⟨schema, record [] schema.allFieldIds⟩ := by
  unfold replace
  have hcheck : checkFields schema.fields [] = .ok () ↔ schema.Sound := by
    rw [checkFields_eq_ok_iff]
    simp [Schema.Sound]
  rw [← hcheck]
  cases checkFields schema.fields [] with
  | error r => simp [refuse]
  | ok u => simp [eq_comm]

/-- What a commit makes is committed. -/
theorem committed_of_commit {s t : Store} {schema : Schema} (h : s.commit schema = .ok t) :
    s.Committed t := by
  obtain ⟨_, _, rfl⟩ := commit_eq_ok_iff.mp h
  exact h

/-- What a replacement makes has begun anew. -/
theorem begun_of_replace {t : Store} {schema : Schema} (h : replace schema = .ok t) : t.Begun := by
  obtain ⟨_, rfl⟩ := replace_eq_ok_iff.mp h
  exact h

/-- A form is taken up within a lifetime iff it is sound and has no id that is gone; the ledger then
takes the ids of the form. -/
theorem committed_iff {s t : Store} :
    s.Committed t ↔ t.schema.Sound ∧ (∀ id ∈ t.schema.allFieldIds, id ∉ s.retired) ∧
      t.issued = record s.issued t.schema.allFieldIds := by
  rw [Committed, commit_eq_ok_iff]
  cases t
  simp

/-- A form is taken up with a new ledger iff it is sound; the ledger then consists of its ids. -/
theorem begun_iff {t : Store} :
    t.Begun ↔ t.schema.Sound ∧ t.issued = record [] t.schema.allFieldIds := by
  rw [Begun, replace_eq_ok_iff]
  cases t
  simp

/-- A committed form is sound. -/
theorem Committed.sound {s t : Store} (h : s.Committed t) : t.schema.Sound := (committed_iff.mp h).1

/-- A form that has begun anew is sound. -/
theorem Begun.sound {t : Store} (h : t.Begun) : t.schema.Sound := (begun_iff.mp h).1

/-- The ledger of a committed store holds the old identifiers and those in use. -/
theorem Committed.mem_issued {s t : Store} (h : s.Committed t) {id : String} :
    id ∈ t.issued ↔ id ∈ s.issued ∨ id ∈ t.schema.allFieldIds := by
  rw [(committed_iff.mp h).2.2, mem_record]

/-- The ledger of a store that has begun anew holds those in use. -/
theorem Begun.mem_issued {t : Store} (h : t.Begun) {id : String} :
    id ∈ t.issued ↔ id ∈ t.schema.allFieldIds := by
  rw [(begun_iff.mp h).2, mem_record]
  simp

/-- An id of the ledger that a new form uses was in the form before it. -/
theorem Committed.mem_of_mem_issued {s t : Store} (h : s.Committed t) {id : String}
    (hi : id ∈ s.issued) (ht : id ∈ t.schema.allFieldIds) : id ∈ s.schema.allFieldIds := by
  by_contra hs
  exact (committed_iff.mp h).2.1 id ht (mem_retired.mpr ⟨hi, hs⟩)

/-! ### Forms that commands make -/

section Forms

variable {s : Store} {schema : Schema} {id changes v : Value}

/-- A setting of the form is revised by validating it together with the others. -/
theorem revised_eq_ok_iff {command name : String} :
    s.revised command name v = .ok schema ↔ s.revalidated [(name, v)] = .ok schema := by
  unfold revised
  cases s.revalidated [(name, v)] with
  | ok schema => simp
  | error u => simp [refuse]

/-- A changed field is what is read of its members with the changes over them. -/
theorem updated_eq_ok_iff :
    s.updated id changes = .ok schema ↔ ∃ f ms g, s.schema.field? id = some f ∧
      RecordKind.field.documentMembers changes = .ok ms ∧ overlaid f ms = .read g ∧
      s.schema.putField f.id g = schema := by
  unfold updated
  cases s.schema.field? id with
  | none => simp [refuse]
  | some f =>
    rw [Outcome.bind_eq_ok_iff]
    constructor
    · rintro ⟨ms, hms, h⟩
      split at h
      · exact ⟨f, ms, _, rfl, hms, ‹_›, Except.ok.inj h⟩
      · exact absurd h Outcome.refuse_ne_ok
    · rintro ⟨_, ms, g, ⟨⟩, hms, hg, rfl⟩
      refine ⟨ms, hms, ?_⟩
      rw [hg]

/-- A field can be taken out if it is there. -/
theorem without_eq_ok_iff :
    s.without id = .ok schema ↔ (s.schema.field? id).isSome ∧
      { s.schema with fields := s.schema.fields.filter fun f => !id.isText f.id } = schema := by
  unfold without
  cases s.schema.field? id with
  | none => simp [refuse]
  | some f => simp

/-- The fields can be reordered by a list of fields under the same identifiers. -/
theorem reordered_eq_ok_iff :
    s.reordered v = .ok schema ↔ ∃ vs fields, v.iterate = .ok vs ∧ fieldsOf vs = .ok fields ∧
      (fields.map (·.id)).Perm s.schema.fieldIds ∧ { s.schema with fields } = schema := by
  constructor
  · intro h
    obtain ⟨vs, hvs, h⟩ := Outcome.bind_eq_ok_iff.mp h
    obtain ⟨fields, hfields, h⟩ := Outcome.bind_eq_ok_iff.mp h
    split at h
    · rename_i hids
      exact ⟨vs, fields, hvs, hfields, List.isPerm_iff.mp hids, Except.ok.inj h⟩
    · exact absurd h Outcome.refuse_ne_ok
  · rintro ⟨vs, fields, hvs, hfields, hids, rfl⟩
    refine Outcome.bind_eq_ok_iff.mpr ⟨vs, hvs, Outcome.bind_eq_ok_iff.mpr ⟨fields, hfields, ?_⟩⟩
    rw [if_pos (List.isPerm_iff.mpr hids)]

/-- Settings are changed by overlaying their document members and reading them again. -/
theorem resettled_eq_ok_iff :
    s.resettled changes = .ok schema ↔ ∃ ms settings,
      RecordKind.settings.documentMembers changes = .ok ms ∧
      Settings.read (.dict (Members.overlay (s.schema.settings.members .document) ms)) =
        .read settings ∧ { s.schema with settings } = schema := by
  unfold resettled
  rw [Outcome.bind_eq_ok_iff]
  constructor
  · rintro ⟨ms, hms, h⟩
    split at h
    · exact ⟨ms, _, hms, ‹_›, Except.ok.inj h⟩
    · exact absurd h Outcome.refuse_ne_ok
  · rintro ⟨ms, settings, hms, hread, rfl⟩
    refine ⟨ms, hms, ?_⟩
    rw [hread]

/-- A schema that is handed over is read. -/
theorem handed_eq_ok_iff {c : Config} : handed c v = .ok schema ↔ c.readSchema v = .ok schema := by
  unfold handed
  cases c.readSchema v with
  | ok schema => simp
  | error u => simp [refuse]

end Forms

/-! ### Commands -/

/-- Whether a command starts a new ledger when it is accepted. -/
def Command.begins : Command → Bool
  | .reset | .importSchema _ => true
  | _ => false

variable {s t : Store}

/-- A change of the title reads the whole form again, which alters nothing else of it. -/
theorem exists_of_setTitle {title : Value} (h : s.setTitle title = .ok t) :
    ∃ new, Reading.text title = .read new ∧ s.commit { s.schema with title := new } = .ok t := by
  obtain ⟨⟨new, description, fields, settings⟩, hread, hcommit⟩ := Outcome.bind_eq_ok_iff.mp h
  obtain ⟨htitle, hdescription, ⟨-, hfields⟩, hsettings⟩ :=
    Schema.read_attributes_iff.mp (revised_eq_ok_iff.mp hread)
  obtain rfl := Reading.read.inj hdescription
  subst hfields hsettings
  exact ⟨new, htitle, hcommit⟩

/-- A change of the description reads the whole form again, which alters nothing else of it. -/
theorem exists_of_setDescription {description : Value}
    (h : s.setDescription description = .ok t) :
    ∃ new, Reading.text description = .read new ∧
      s.commit { s.schema with description := new } = .ok t := by
  obtain ⟨⟨title, new, fields, settings⟩, hread, hcommit⟩ := Outcome.bind_eq_ok_iff.mp h
  obtain ⟨htitle, hdescription, ⟨-, hfields⟩, hsettings⟩ :=
    Schema.read_attributes_iff.mp (revised_eq_ok_iff.mp hread)
  obtain rfl := Reading.read.inj htitle
  subst hfields hsettings
  exact ⟨new, hdescription, hcommit⟩

/-- Whatever form the store commits to, its ledger goes on. -/
theorem committed_of_commit_bind {o : Outcome Schema}
    (h : (do s.commit (← o) : Outcome Store) = .ok t) : s.Committed t := by
  obtain ⟨_, _, h⟩ := Outcome.bind_eq_ok_iff.mp h
  exact committed_of_commit h

/-- Whatever form the store is replaced by, its ledger is new. -/
theorem begun_of_replace_bind {o : Outcome Schema}
    (h : (do replace (← o) : Outcome Store) = .ok t) : t.Begun := by
  obtain ⟨_, _, h⟩ := Outcome.bind_eq_ok_iff.mp h
  exact begun_of_replace h

/-- A new form has no fields. -/
theorem fields_newSchema {c : Config} {schema : Schema} (h : c.newSchema = .ok schema) :
    schema.fields = [] := by
  unfold Config.newSchema at h
  cases hsettings : c.settings with
  | refused misplaced =>
    rw [hsettings] at h
    cases h
  | read settings =>
    rw [hsettings] at h
    have h := Reading.outcome_eq_ok_iff.mp h
    unfold Schema.ofMembers at h
    simp only [Reading.seq_eq_read_iff, Reading.map_eq_read_iff] at h
    obtain ⟨_, _, ⟨_, fields, ⟨_, _, ⟨_, _, rfl⟩, _, rfl⟩, hfields, rfl⟩, _, rfl⟩ := h
    cases hfields
    rfl

/-- What an import makes has begun anew. -/
theorem begun_of_importSchema {c : Config} {v : Value} (h : importSchema c v = .ok t) : t.Begun :=
  begun_of_replace_bind h

/-- An accepted command takes up a form, with a new ledger or within the lifetime of the old one. -/
theorem run_eq_ok {c : Config} {command : Command} (h : s.run c command = .ok t) :
    if command.begins then t.Begun else s.Committed t := by
  cases command with
  | setTitle title => exact committed_of_commit_bind h
  | setDescription description => exact committed_of_commit_bind h
  | addField field =>
    obtain ⟨f, _, h⟩ := Outcome.bind_eq_ok_iff.mp h
    exact committed_of_commit h
  | updateField id changes => exact committed_of_commit_bind h
  | removeField id => exact committed_of_commit_bind h
  | reorderFields fields => exact committed_of_commit_bind h
  | updateSettings changes => exact committed_of_commit_bind h
  | reset => exact begun_of_replace_bind h
  | importSchema schema => exact begun_of_replace_bind h

end Store
end Questionnaire
