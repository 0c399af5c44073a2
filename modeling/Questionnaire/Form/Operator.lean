import Questionnaire.Form.FieldType

/-!
# Comparison operators

The operators of visibility conditions, their names and labels, and which of them are offered for a
source field of each type.
-/

namespace Questionnaire

/-- How a condition compares the answer of its source with its own value. -/
inductive Operator where
  | equals
  | notEquals
  | contains
  | notContains
  | greaterThan
  | lessThan
  | isEmpty
  | isNotEmpty
  deriving DecidableEq, Inhabited, Repr

namespace Operator

/-- All operators in their usual order. -/
def all : List Operator :=
  [.equals, .notEquals, .contains, .notContains, .greaterThan, .lessThan, .isEmpty, .isNotEmpty]

/-- The name of an operator in a document. -/
def name : Operator → String
  | .equals => "equals"
  | .notEquals => "notEquals"
  | .contains => "contains"
  | .notContains => "notContains"
  | .greaterThan => "greaterThan"
  | .lessThan => "lessThan"
  | .isEmpty => "isEmpty"
  | .isNotEmpty => "isNotEmpty"

/-- The operator of a name. -/
def ofName? (s : String) : Option Operator := all.find? (·.name = s)

theorem ofName?_name (o : Operator) : ofName? o.name = some o := by cases o <;> rfl

/-- The label of an operator. -/
def label : Operator → String
  | .equals => "Equals"
  | .notEquals => "Does not equal"
  | .contains => "Contains"
  | .notContains => "Does not contain"
  | .greaterThan => "Greater than"
  | .lessThan => "Less than"
  | .isEmpty => "Is empty"
  | .isNotEmpty => "Is not empty"

/-- The operators that have no use for the value of the condition. -/
def unary : List Operator := [.isEmpty, .isNotEmpty]

/-- The operators offered when a field of the type is the source of a condition. -/
def offeredFor : FieldType → List Operator
  | .text | .textarea | .email =>
    [.equals, .notEquals, .contains, .notContains, .isEmpty, .isNotEmpty]
  | .number => [.equals, .notEquals, .greaterThan, .lessThan, .isEmpty, .isNotEmpty]
  | .select | .radio | .date => [.equals, .notEquals, .isEmpty, .isNotEmpty]
  | .multiSelect | .checkbox => [.contains, .notContains, .isEmpty, .isNotEmpty]
  | .file | .image | .attachment | .matrix | .repeatable => [.isEmpty, .isNotEmpty]
  | .rating => [.equals, .notEquals, .greaterThan, .lessThan]

/-- The types in the order in which their operators are listed. -/
def listedTypes : List FieldType :=
  [.text, .textarea, .email, .number, .select, .radio, .date, .multiSelect, .checkbox, .file, .image,
    .attachment, .rating, .matrix, .repeatable]

/-- The operators offered for a source of a type that is given by name, if it is one. -/
def offeredForName (name : Option String) : List Operator :=
  match name.bind FieldType.ofName? with
  | some type => offeredFor type
  | none => [.equals, .notEquals]

end Operator
end Questionnaire
