import Questionnaire.Validation.Contract
import Questionnaire.Form.Schema

/-!
# Submissions

A submission is refused with a report, or accepted with the answers of the visible fields under the
labels of the fields.  Of an uploaded file only its name, type and size are handed on
(`Value.fileSummary`).
-/

namespace Questionnaire

/-- What becomes of the answers that are submitted. -/
structure Submission where
  accepted : Bool
  report : Report
  /-- The answers by label, if they are accepted. -/
  data : Option (Members Value)
  confirmationMessage : Option String
  deriving Inhabited

/-! ### Files -/

/-- What is handed on of a file. -/
def fileAttributes : List String := ["name", "type", "size"]

mutual

/-- A file reduced to what is handed on of it; items of a list one by one. -/
def Value.fileSummary : Value → Value
  | .list vs => .list (Value.fileSummaries vs)
  | .dict ms => .dict (fileAttributes.map fun name => (name, (Members.get? ms name).getD .null))
  | .file ms =>
    if fileAttributes.all (Members.has ms) then
      .dict (fileAttributes.map fun name => (name, (Members.get? ms name).getD .null))
    else .file ms
  | v => v

/-- Files reduced one by one. -/
def Value.fileSummaries : List Value → List Value
  | [] => []
  | v :: vs => v.fileSummary :: Value.fileSummaries vs

end

/-! ### Accepted answers -/

namespace Field

/-- The answer of a field as it is handed on. -/
def submitted (f : Field) (v : Value) : Value :=
  if f.type.isFile && v.isTruthy then v.fileSummary else v

end Field

/-- The answers of the visible fields by label; of fields with one label the last one counts. -/
def submittedData (cleaned : Members Value) (visible : List String) (fields : List Field) :
    Members Value :=
  Members.ofPairs (fields.filterMap fun f =>
    if visible.contains f.id then (cleaned.get? f.id).map fun v => (f.label, f.submitted v)
    else none)

namespace Submission

/-- The submission of answers with a report about them. -/
def ofReport (schema : Schema) (visible : List String) (report : Report) : Submission :=
  if report.isValid then
    { accepted := true
      report
      data := some (submittedData (report.data.getD []) visible schema.fields)
      confirmationMessage := some schema.settings.confirmationMessage }
  else ⟨false, report, none, none⟩

/-- A submission as an object. -/
def toValue (s : Submission) : Value :=
  .dict [("accepted", .bool s.accepted), ("validation", s.report.toValue .attributes),
    ("data", .ofOption .dict s.data),
    ("confirmation_message", .optionalText s.confirmationMessage)]

end Submission
end Questionnaire
