import Questionnaire.Form.FieldType
import Questionnaire.Form.Operator
import Questionnaire.Value.Basic

/-!
# Fields

A field has a type, a label, and as its type requires choices, constraints, visibility conditions
and sub-fields.  An optional part that is absent differs from one that is there and empty.
-/

namespace Questionnaire

/-- One choice of a choice field, or one row or column of a matrix. -/
structure Choice where
  id : String
  /-- What is submitted when it is chosen. -/
  value : String
  /-- What is shown. -/
  label : String
  /-- Of a matrix: whether it is a column. -/
  isColumn : Option Bool
  deriving DecidableEq, Inhabited

/-- The constraints on the answer of a field. -/
structure Constraints where
  /-- The least number, or the least count of selections or entries. -/
  min : Option Number
  /-- The greatest number, or the greatest count of selections or entries. -/
  max : Option Number
  minLength : Option Int
  maxLength : Option Int
  /-- The pattern that the whole text has to match. -/
  pattern : Option String
  allowedFileTypes : Option (List String)
  maxFileSize : Option Number
  maxFiles : Option Int
  /-- Replaces the message of every failure. -/
  customMessage : Option String
  deriving DecidableEq, Inhabited

/-- No constraints at all. -/
def Constraints.unconstrained : Constraints :=
  ⟨none, none, none, none, none, none, none, none, none⟩

/-- A comparison that has to hold for a field to be visible. -/
structure Condition where
  /-- The top-level field whose answer is compared. -/
  source : String
  operator : Operator
  /-- The right side of the comparison. -/
  value : Value
  deriving Inhabited

/-- A field of a form. -/
structure Field where
  id : String
  type : FieldType
  label : String
  required : Bool
  placeholder : Option String
  helpText : Option String
  options : Option (List Choice)
  constraints : Option Constraints
  conditions : Option (List Condition)
  /-- The fields of each entry of a repeatable section. -/
  subFields : Option (List Field)
  deriving Inhabited

namespace Field

/-- The choices, none when the part is absent. -/
def choices (f : Field) : List Choice := f.options.getD []

/-- The conditions, none when the part is absent. -/
def conditionList (f : Field) : List Condition := f.conditions.getD []

/-- The sub-fields, none when the part is absent. -/
def children (f : Field) : List Field := f.subFields.getD []

/-- The rows of a matrix: the options that are no columns. -/
def rows (f : Field) : List Choice := f.choices.filter (·.isColumn ≠ some true)

/-- The columns of a matrix. -/
def columns (f : Field) : List Choice := f.choices.filter (·.isColumn = some true)

/-- Whether the field has a condition. -/
def hasConditions (f : Field) : Bool := !f.conditionList.isEmpty

/-- The option with an id. -/
def choice? (f : Field) (id : Value) : Option Choice := f.choices.find? fun o => id.isText o.id

/-- The sub-field with an id. -/
def child? (f : Field) (id : Value) : Option Field := f.children.find? fun s => id.isText s.id

mutual

/-- The id of a field and those of all its sub-fields, at any depth, in the order of the document. -/
def allIds : Field → List String
  | ⟨id, _, _, _, _, _, _, _, _, subFields⟩ => id :: allIdsOpt subFields

/-- The ids of an optional list of fields. -/
def allIdsOpt : Option (List Field) → List String
  | none => []
  | some fields => allIdsList fields

/-- The ids of a list of fields. -/
def allIdsList : List Field → List String
  | [] => []
  | f :: fs => f.allIds ++ allIdsList fs

end

/-- The answer before anyone has touched the field. -/
def defaultAnswer (f : Field) : Value :=
  match f.type with
  | .multiSelect | .checkbox | .repeatable => .list []
  | .matrix => .dict []
  | .rating => .int 0
  | .number | .file | .image | .attachment => .null
  | _ => .str ""

end Field
end Questionnaire
