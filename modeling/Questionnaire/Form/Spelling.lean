import Questionnaire.Fault
import Questionnaire.Value.Iteration

/-!
# Spellings of members

A member of a record has a name as an attribute and a name in documents.  `documentMembers` gives a
partial update the names of documents, and refuses names that the record does not have.
-/

namespace Questionnaire

namespace RecordKind

/-- The members of a kind of records: their names as attributes and in documents. -/
def spellings : RecordKind → List (String × String)
  | .choice =>
    [("id", "id"), ("value", "value"), ("label", "label"), ("is_column", "isColumn")]
  | .constraints =>
    [("min", "min"), ("max", "max"), ("min_length", "minLength"), ("max_length", "maxLength"),
      ("pattern", "pattern"), ("allowed_file_types", "allowedFileTypes"),
      ("max_file_size", "maxFileSize"), ("max_files", "maxFiles"),
      ("custom_message", "customMessage")]
  | .condition =>
    [("source_field_id", "sourceFieldId"), ("operator", "operator"), ("value", "value")]
  | .field =>
    [("id", "id"), ("type", "type"), ("label", "label"), ("required", "required"),
      ("placeholder", "placeholder"), ("help_text", "helpText"), ("options", "options"),
      ("validations", "validations"), ("conditions", "conditions"), ("sub_fields", "subFields")]
  | .settings =>
    [("show_progress_bar", "showProgressBar"), ("show_page_titles", "showPageTitles"),
      ("confirmation_message", "confirmationMessage")]
  | .schema =>
    [("title", "title"), ("description", "description"), ("fields", "fields"),
      ("settings", "settings")]
  | .failure =>
    [("field_id", "field_id"), ("error_type", "error_type"), ("message", "message"),
      ("expected", "expected"), ("received", "received")]
  | .report =>
    [("is_valid", "is_valid"), ("errors", "errors"), ("validated_data", "validated_data"),
      ("warnings", "warnings")]
  | .issue =>
    [("field_id", "field_id"), ("kind", "kind"), ("severity", "severity"), ("message", "message")]
  | .contract => [("rules", "rules"), ("issues", "issues")]

/-- The document name of a member given by either name. -/
def documentName? (kind : RecordKind) (name : String) : Option String :=
  match kind.spellings.lookup name with
  | some camel => some camel
  | none => if kind.spellings.any (·.2 = name) then some name else none

/-- Renames members one after the other; of two spellings of one member the later wins. -/
def renameFrom (kind : RecordKind) : Members Value → List (String × Value) → Outcome (Members Value)
  | done, [] => .ok done
  | done, (name, v) :: ms =>
    match kind.documentName? name with
    | some camel => renameFrom kind (done.put camel v) ms
    | none => refuse (.unknownMember kind (.str name))

/-- The members of a partial update under their names in documents. -/
def documentMembers (kind : RecordKind) (v : Value) : Outcome (Members Value) := do
  renameFrom kind [] (← v.membersFor "items")

end RecordKind
end Questionnaire
