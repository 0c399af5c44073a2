import Questionnaire.Form.Export
import Questionnaire.Reading.Scalar

/-!
# Reports

A report says whether the answers of a form are valid.  It lists the failures, and for valid answers
holds the answers as they were cleaned.
-/

namespace Questionnaire

/-- An answer that a rule does not accept. -/
structure Failure where
  /-- The field; inside a section its path of section, entry and sub-field. -/
  fieldId : String
  /-- The name of the rule that is broken. -/
  type : String
  message : String
  expected : Value
  received : Value
  deriving Inhabited

/-- The outcome of validating a form. -/
structure Report where
  isValid : Bool
  failures : List Failure
  /-- The cleaned answers, if they are valid. -/
  data : Option (Members Value)
  warnings : List String
  deriving Inhabited

open Reading

namespace Failure

/-- A failure by its members. -/
def members (view : View) (f : Failure) : Members Value :=
  [("field_id", .str f.fieldId), ("error_type", .str f.type), ("message", .str f.message)] ++
    view.data "expected" f.expected ++ view.data "received" f.received

/-- A failure as an object. -/
def toValue (view : View) (f : Failure) : Value := .dict (f.members view)

/-- Reads a failure from its members. -/
def ofMembers (ms : Members Value) : Reading Failure :=
  Failure.mk <$> requireMember ms "field_id" "field_id" text
    <*> requireMember ms "error_type" "error_type" text
    <*> requireMember ms "message" "message" text
    <*> memberOr ms "expected" "expected" .null any
    <*> memberOr ms "received" "received" .null any

/-- Reads a failure. -/
def read : Value → Reading Failure := ofRecord .failure ofMembers

end Failure

namespace Report

/-- The number of failures. -/
def errorCount (r : Report) : Nat := r.failures.length

/-- The failures of a field. -/
def failuresOf (r : Report) (id : String) : List Failure := r.failures.filter (·.fieldId = id)

/-- The messages of the failures by field, in the order in which the fields first fail. -/
def messagesByField (r : Report) : Members (List String) :=
  r.failures.foldl (fun ms f => ms.put f.fieldId ((ms.get? f.fieldId).getD [] ++ [f.message])) []

/-- The messages of the failures by field, as an object. -/
def messagesValue (r : Report) : Value := .dict (r.messagesByField.map fun m => (m.1, .texts m.2))

/-- A report by its members. -/
def members (view : View) (r : Report) : Members Value :=
  [("is_valid", .bool r.isValid), ("errors", .list (r.failures.map (·.toValue view)))] ++
    view.member "validated_data" "validated_data" (.ofOption .dict r.data) ++
    [("warnings", .texts r.warnings)]

/-- A report as an object. -/
def toValue (view : View) (r : Report) : Value := .dict (r.members view)

/-- Reads a report from its members. -/
def ofMembers (ms : Members Value) : Reading Report :=
  Report.mk <$> requireMember ms "is_valid" "is_valid" truth
    <*> memberOr ms "errors" "errors" [] (sequence .notList Failure.read)
    <*> memberOr ms "validated_data" "validated_data" none (optional (mapping any))
    <*> memberOr ms "warnings" "warnings" [] (sequence .notList text)

/-- Reads a report. -/
def read : Value → Reading Report := ofRecord .report ofMembers

end Report
end Questionnaire
