/-!
# Field types

The fifteen types of a form field, their names, and the classes of types that other modules ask for.
-/

namespace Questionnaire

/-- The type of a form field. -/
inductive FieldType where
  | text
  | textarea
  | number
  | email
  | select
  | multiSelect
  | checkbox
  | radio
  | date
  | file
  | image
  | attachment
  | rating
  | matrix
  | repeatable
  deriving DecidableEq, Inhabited, Repr

namespace FieldType

/-- All types, in the order in which they are offered. -/
def all : List FieldType :=
  [.text, .textarea, .number, .email, .select, .multiSelect, .checkbox, .radio, .date, .file, .image,
    .attachment, .rating, .matrix, .repeatable]

/-- The name of a type in a document. -/
def name : FieldType → String
  | .text => "text"
  | .textarea => "textarea"
  | .number => "number"
  | .email => "email"
  | .select => "select"
  | .multiSelect => "multiSelect"
  | .checkbox => "checkbox"
  | .radio => "radio"
  | .date => "date"
  | .file => "file"
  | .image => "image"
  | .attachment => "attachment"
  | .rating => "rating"
  | .matrix => "matrix"
  | .repeatable => "repeatable"

/-- The type of a name. -/
def ofName? (s : String) : Option FieldType := all.find? (·.name = s)

theorem ofName?_name (t : FieldType) : ofName? t.name = some t := by cases t <;> rfl

/-- The options are a flat list of choices. -/
def isChoice : FieldType → Bool
  | .select | .multiSelect | .checkbox | .radio => true
  | _ => false

/-- The answer is a list of the values that were chosen. -/
def isMultiChoice : FieldType → Bool
  | .multiSelect | .checkbox => true
  | _ => false

/-- The answer is an uploaded file, or several of them. -/
def isFile : FieldType → Bool
  | .file | .image | .attachment => true
  | _ => false

/-- The label of a new field of a type. -/
def defaultLabel : FieldType → String
  | .text => "Text Question"
  | .textarea => "Long Answer Question"
  | .number => "Number Question"
  | .email => "Email Address"
  | .select => "Dropdown Question"
  | .multiSelect => "Multi-Select Question"
  | .checkbox => "Checkbox Question"
  | .radio => "Multiple Choice Question"
  | .date => "Date Question"
  | .file => "File Upload"
  | .rating => "Rating Question"
  | .matrix => "Matrix Question"
  | .repeatable => "Repeatable Section"
  | .image | .attachment => "New Question"

/-- The label of a new field of a type that is given by name, if it is one. -/
def labelForName (name : Option String) : String :=
  match name.bind ofName? with
  | some type => type.defaultLabel
  | none => "New Question"

end FieldType
end Questionnaire
