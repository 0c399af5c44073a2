import Questionnaire.Form.Field

/-!
# Schemas

A schema is a complete form: its title and description, the ordered list of its fields, and
presentation settings.  The look-ups find a field among the top-level fields or among the sub-fields
one level below them.
-/

namespace Questionnaire

/-- How a form is presented. -/
structure Settings where
  showProgressBar : Bool
  showPageTitles : Bool
  confirmationMessage : String
  deriving DecidableEq, Inhabited

/-- A complete form. -/
structure Schema where
  title : String
  description : String
  fields : List Field
  settings : Settings
  deriving Inhabited

namespace Schema

/-- The ids of the top-level fields in order. -/
def fieldIds (s : Schema) : List String := s.fields.map (·.id)

/-- The ids of all fields and sub-fields in the order of the document. -/
def allFieldIds (s : Schema) : List String := Field.allIdsList s.fields

/-- The top-level field with an id. -/
def field? (s : Schema) (id : Value) : Option Field := s.fields.find? fun f => id.isText f.id

/-- The top-level field with an id, or else the first sub-field with it. -/
def find? (s : Schema) (id : Value) : Option Field :=
  s.fields.findSome? fun f => if id.isText f.id then some f else f.child? id

/-- The top-level field that has a sub-field with an id. -/
def parent? (s : Schema) (id : Value) : Option Field :=
  s.fields.find? fun f => (f.child? id).isSome

/-- Puts a field in the place of the top-level field with an id. -/
def putField (s : Schema) (id : String) (g : Field) : Schema :=
  { s with fields := s.fields.map fun f => if f.id = id then g else f }

end Schema
end Questionnaire
