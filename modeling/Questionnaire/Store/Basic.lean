import Questionnaire.Config
import Questionnaire.Form.Export
import Questionnaire.Form.Integrity
import Questionnaire.Form.Spelling

/-!
# The store of the current form

A store holds one form and a ledger of all ids that its fields have had since it was last replaced as
a whole.  Every command makes a complete new form, which takes the place of the old one if it is
sound and uses no id of the ledger for a new field after the field with it is gone.

`Store.run` runs a command; a refused one leaves no trace, since its result is a fault instead of a
store.
-/

namespace Questionnaire

/-- A form with the ids that were ever used in it. -/
structure Store where
  schema : Schema
  /-- The ids in the order in which they came. -/
  issued : List String
  deriving Inhabited

namespace Store

/-- Adds ids to a ledger that are not yet in it. -/
def record (ledger : List String) : List String → List String
  | [] => ledger
  | id :: ids => record (if id ∈ ledger then ledger else ledger ++ [id]) ids

theorem mem_record {ledger ids : List String} {id : String} :
    id ∈ record ledger ids ↔ id ∈ ledger ∨ id ∈ ids := by
  induction ids generalizing ledger with
  | nil => simp [record]
  | cons i is ih =>
    rw [record, ih]
    by_cases h : i ∈ ledger
    · simp only [h, if_true, List.mem_cons]
      constructor
      · rintro (h' | h') <;> simp [h']
      · rintro (h' | rfl | h') <;> simp_all
    · simp [h, or_assoc]

/-- The ids that were used and are no longer. -/
def retired (s : Store) : List String := s.issued.filter (· ∉ s.schema.allFieldIds)

/-- Makes a form the current one, if it is sound. -/
def commit (s : Store) (schema : Schema) : Outcome Store :=
  match checkFields schema.fields s.retired with
  | .ok _ => .ok ⟨schema, record s.issued schema.allFieldIds⟩
  | .error r => refuse r

/-- Makes a form the current one and starts a new ledger, if it is sound. -/
def replace (schema : Schema) : Outcome Store :=
  match checkFields schema.fields [] with
  | .ok _ => .ok ⟨schema, record [] schema.allFieldIds⟩
  | .error r => refuse r

/-! ### Forms that commands make -/

/-- The form with members put over those of its attributes, read again as a whole.  It shows its
settings, so the reader never falls back on others. -/
def revalidated (s : Store) (changes : Members Value) : Except Unread Schema :=
  Schema.read (.read s.schema.settings)
    (.dict (Members.overlay (s.schema.members .attributes) changes))

/-- The form with one member replaced, by reading all of it again. -/
def revised (s : Store) (command name : String) (v : Value) : Outcome Schema :=
  match s.revalidated [(name, v)] with
  | .ok schema => .ok schema
  | .error u => refuse (.unreadChange command u.misplaced)

/-- The id that a value shows before it is read as a field. -/
def shownId : Value → Value
  | .dict ms => (Members.get? ms "id").getD .null
  | _ => .null

/-- Reads a field that a caller hands in. -/
def fieldOf (v : Value) : Outcome Field :=
  match Field.read v with
  | .read f => .ok f
  | .refused ms => refuse (.unreadField (shownId v) ms)

/-- Reads fields that a caller hands in. -/
def fieldsOf : List Value → Outcome (List Field)
  | [] => .ok []
  | v :: vs => do
    let f ← fieldOf v
    pure (f :: (← fieldsOf vs))

/-- The form with a field at its end. -/
def extended (s : Store) (f : Field) : Schema :=
  { s.schema with fields := s.schema.fields ++ [f] }

/-- Puts members over those of a field. -/
def overlaid (f : Field) (changes : Members Value) : Reading Field :=
  Field.read (.dict (Members.overlay (f.members .document) changes))

/-- The form with members of a top-level field replaced; each replaces the old one as a whole. -/
def updated (s : Store) (id : Value) (changes : Value) : Outcome Schema :=
  match s.schema.field? id with
  | some f => do
    let changes ← RecordKind.field.documentMembers changes
    match overlaid f changes with
    | .read g => .ok (s.schema.putField f.id g)
    | .refused ms => refuse (.unreadUpdate id ms)
  | none => refuse (.noField id)

/-- The form without a top-level field.  Conditions that look at it stay and no longer hold. -/
def without (s : Store) (id : Value) : Outcome Schema :=
  match s.schema.field? id with
  | some _ => .ok { s.schema with fields := s.schema.fields.filter fun f => !id.isText f.id }
  | none => refuse (.noField id)

/-- The form with other fields of the same ids. -/
def reordered (s : Store) (v : Value) : Outcome Schema := do
  let fields ← fieldsOf (← v.iterate)
  if (fields.map (·.id)).isPerm s.schema.fieldIds then .ok { s.schema with fields }
  else refuse .notPermutation

/-- The form with some of its settings replaced. -/
def resettled (s : Store) (changes : Value) : Outcome Schema := do
  let changes ← RecordKind.settings.documentMembers changes
  match Settings.read (.dict (Members.overlay (s.schema.settings.members .document) changes)) with
  | .read settings => .ok { s.schema with settings }
  | .refused ms => refuse (.unreadSettings ms)

/-- A whole form that a caller hands in. -/
def handed (c : Config) (v : Value) : Outcome Schema :=
  match c.readSchema v with
  | .ok schema => .ok schema
  | .error u => refuse (.unreadSchema u.misplaced)

/-! ### Commands -/

/-- Changes the title. -/
def setTitle (s : Store) (title : Value) : Outcome Store := do
  s.commit (← s.revised "set_title" "title" title)

/-- Changes the description. -/
def setDescription (s : Store) (description : Value) : Outcome Store := do
  s.commit (← s.revised "set_description" "description" description)

/-- Adds a field at the end. -/
def append (s : Store) (f : Field) : Outcome Store := s.commit (s.extended f)

/-- Adds a field that a caller hands in at the end. -/
def addField (s : Store) (v : Value) : Outcome Store := do s.append (← fieldOf v)

/-- Replaces members of a top-level field. -/
def updateField (s : Store) (id : Value) (changes : Value) : Outcome Store := do
  s.commit (← s.updated id changes)

/-- Removes a top-level field. -/
def removeField (s : Store) (id : Value) : Outcome Store := do s.commit (← s.without id)

/-- Replaces the list of fields by one with the same ids. -/
def reorderFields (s : Store) (v : Value) : Outcome Store := do s.commit (← s.reordered v)

/-- Replaces some of the settings. -/
def updateSettings (s : Store) (changes : Value) : Outcome Store := do
  s.commit (← s.resettled changes)

/-- Starts over with a new form. -/
def reset (c : Config) : Outcome Store := do replace (← Outcome.ofUnread c.newSchema)

/-- Replaces the form by one that a caller hands in. -/
def importSchema (c : Config) (v : Value) : Outcome Store := do replace (← handed c v)

/-- A store with a new form, or with the form that a caller hands in. -/
def new (c : Config) (v : Option Value) : Outcome Store := do
  let fresh ← Outcome.ofUnread c.newSchema
  match v with
  | none => pure ⟨fresh, []⟩
  | some v => importSchema c v

/-- The commands that change the form. -/
inductive Command where
  | setTitle (title : Value)
  | setDescription (description : Value)
  | addField (field : Value)
  | updateField (id changes : Value)
  | removeField (id : Value)
  | reorderFields (fields : Value)
  | updateSettings (changes : Value)
  | reset
  | importSchema (schema : Value)

/-- Runs a command. -/
def run (c : Config) (s : Store) : Command → Outcome Store
  | .setTitle title => s.setTitle title
  | .setDescription description => s.setDescription description
  | .addField field => s.addField field
  | .updateField id changes => s.updateField id changes
  | .removeField id => s.removeField id
  | .reorderFields fields => s.reorderFields fields
  | .updateSettings changes => s.updateSettings changes
  | .reset => reset c
  | .importSchema schema => importSchema c schema

end Store
end Questionnaire
