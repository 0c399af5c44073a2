import Questionnaire.Form.Schema
import Questionnaire.Reading.Scalar

/-!
# Reading the parts of a form

Every part of a form is read from an object of members.  A member with two spellings is looked for
under the one of documents (`helpText`) first and then under the one of attributes (`help_text`).

Fields contain fields, so `Field.read` follows the structure of the data.  A schema without settings
takes the ones that are given for that case.
-/

namespace Questionnaire

open Reading

namespace Choice

/-- Reads a choice from its members. -/
def ofMembers (ms : Members Value) : Reading Choice :=
  Choice.mk <$> requireMember ms "id" "id" text <*> requireMember ms "value" "value" text
    <*> requireMember ms "label" "label" text
    <*> memberOr ms "isColumn" "is_column" none (optional truth)

/-- Reads a choice. -/
def read : Value → Reading Choice := ofRecord .choice ofMembers

end Choice

namespace Constraints

/-- Reads constraints from their members. -/
def ofMembers (ms : Members Value) : Reading Constraints :=
  Constraints.mk <$> memberOr ms "min" "min" none (optional number)
    <*> memberOr ms "max" "max" none (optional number)
    <*> memberOr ms "minLength" "min_length" none (optional integer)
    <*> memberOr ms "maxLength" "max_length" none (optional integer)
    <*> memberOr ms "pattern" "pattern" none (optional text)
    <*> memberOr ms "allowedFileTypes" "allowed_file_types" none
      (optional (sequence .notTuple text))
    <*> memberOr ms "maxFileSize" "max_file_size" none (optional number)
    <*> memberOr ms "maxFiles" "max_files" none (optional integer)
    <*> memberOr ms "customMessage" "custom_message" none (optional text)

/-- Reads constraints. -/
def read : Value → Reading Constraints := ofRecord .constraints ofMembers

end Constraints

namespace Condition

/-- Reads a condition from its members. -/
def ofMembers (ms : Members Value) : Reading Condition :=
  Condition.mk <$> requireMember ms "sourceFieldId" "source_field_id" text
    <*> requireMember ms "operator" "operator" (named Operator.ofName? .notMemberOfEnumeration)
    <*> memberOr ms "value" "value" .null any

/-- Reads a condition. -/
def read : Value → Reading Condition := ofRecord .condition ofMembers

end Condition

namespace Field

/-- Reads an id, which is not empty. -/
def readId (v : Value) : Reading String :=
  match text v with
  | .read "" => misfit .textTooShort
  | r => r

/-- Reads a field from its members, given what was read as its sub-fields. -/
def ofMembers (ms : Members Value) (subFields : Reading (Option (List Field))) : Reading Field :=
  Field.mk <$> requireMember ms "id" "id" readId
    <*> requireMember ms "type" "type" (named FieldType.ofName? .notMemberOfEnumeration)
    <*> requireMember ms "label" "label" text
    <*> memberOr ms "required" "required" false truth
    <*> memberOr ms "placeholder" "placeholder" none (optional text)
    <*> memberOr ms "helpText" "help_text" none (optional text)
    <*> memberOr ms "options" "options" none (optional (sequence .notTuple Choice.read))
    <*> memberOr ms "validations" "validations" none (optional Constraints.read)
    <*> memberOr ms "conditions" "conditions" none (optional (sequence .notTuple Condition.read))
    <*> subFields

mutual

/-- Reads a field. -/
def read : Value → Reading Field
  | .dict ms => ofMembers ms (preferred (readMember "subFields" ms) (readMember "sub_fields" ms))
  | .record .field ms =>
    ofMembers ms (preferred (readMember "subFields" ms) (readMember "sub_fields" ms))
  | _ => misfit .notRecord

/-- Reads sub-fields from the first member of a spelling. -/
def readMember (spelling : String) : List (String × Value) → Option (Reading (Option (List Field)))
  | [] => none
  | (name, v) :: ms =>
    if name = spelling then some ((readChildren v).under (.key spelling))
    else readMember spelling ms

/-- Reads sub-fields, which may be `null`. -/
def readChildren : Value → Reading (Option (List Field))
  | .null => .read none
  | .list vs | .tuple vs | .set vs => some <$> readFrom 0 vs
  | _ => misfit .notTuple

/-- Reads fields by their index. -/
def readFrom : Nat → List Value → Reading (List Field)
  | _, [] => .read []
  | n, v :: vs => List.cons <$> (read v).under (.index n) <*> readFrom (n + 1) vs

/-- The first of two readings that took place. -/
def preferred : Option (Reading (Option (List Field))) → Option (Reading (Option (List Field))) →
    Reading (Option (List Field))
  | some r, _ => r
  | none, some r => r
  | none, none => .read none

end

/-- Reads the top-level fields of a form. -/
def readAll : Value → Reading (List Field)
  | .list vs | .tuple vs | .set vs => readFrom 0 vs
  | _ => misfit .notTuple

end Field

namespace Settings

/-- The settings of a form that says nothing about them in its settings. -/
def standard : Settings := ⟨true, true, "Thank you for your submission!"⟩

/-- Reads settings from their members. -/
def ofMembers (ms : Members Value) : Reading Settings :=
  Settings.mk <$> memberOr ms "showProgressBar" "show_progress_bar" standard.showProgressBar truth
    <*> memberOr ms "showPageTitles" "show_page_titles" standard.showPageTitles truth
    <*> memberOr ms "confirmationMessage" "confirmation_message" standard.confirmationMessage text

/-- Reads settings. -/
def read : Value → Reading Settings := ofRecord .settings ofMembers

end Settings

/-- A record that could not be read: its kind and all that does not fit. -/
structure Unread where
  kind : RecordKind
  misplaced : List Misplaced

/-- What reading a record of a kind gives. -/
def Reading.outcome {α : Type} (kind : RecordKind) : Reading α → Except Unread α
  | .read a => .ok a
  | .refused ms => .error ⟨kind, ms⟩

namespace Schema

/-- Reads a schema from its members; `settings` is what was read as its settings. -/
def ofMembers (ms : Members Value) (settings : Reading Settings) : Reading Schema :=
  Schema.mk <$> requireMember ms "title" "title" text
    <*> memberOr ms "description" "description" "" text
    <*> memberOr ms "fields" "fields" [] Field.readAll
    <*> settings

/-- Reads a schema.  One without settings takes `fallback`; if that is no settings, the schema is
refused for this alone. -/
def read (fallback : Reading Settings) (v : Value) : Except Unread Schema :=
  match recordMembers? .schema v with
  | none => .error ⟨.schema, [⟨[], .notRecord⟩]⟩
  | some ms =>
    match ms.get? "settings" with
    | some v => (ofMembers ms ((Settings.read v).under (.key "settings"))).outcome .schema
    | none =>
      match fallback with
      | .read s => (ofMembers ms (.read s)).outcome .schema
      | .refused misplaced => .error ⟨.settings, misplaced⟩

end Schema
end Questionnaire
