import Questionnaire.Form.Schema
import Questionnaire.Reading.Scalar

/-!
# Exporting the parts of a form

Every part of a form can be shown as an object of members in three views.  `View.attributes` lists
every attribute under its own name.  `View.document` is the form of documents: names in camel case,
and no member for an absent part.  `View.portable` is the document with the data of conditions made
fit for JSON (`Value.portable`).
-/

namespace Questionnaire

/-- How a part of a form is shown. -/
inductive View where
  | attributes
  | document
  | portable
  deriving DecidableEq

/-! ### Portable data -/

namespace Value

mutual

/-- Data that JSON can hold: tuples and sets are arrays, dates and bytes are texts, and floats
without finite value are `null`. -/
def portable : Value → Value
  | .float x => if x.isFinite then .float x else .null
  | .list vs | .tuple vs | .set vs => .list (portableItems vs)
  | .dict ms => .dict (portableMembers ms)
  | .record _ ms => .dict (portableMembers ms)
  | .bytes data => .str ((Reading.utf8? data).getD "")
  | .date s => .str s
  | v => v

/-- Portable items. -/
def portableItems : List Value → List Value
  | [] => []
  | v :: vs => v.portable :: portableItems vs

/-- Portable members. -/
def portableMembers : List (String × Value) → List (String × Value)
  | [] => []
  | (name, v) :: ms => (name, v.portable) :: portableMembers ms

end
end Value

/-! ### Members -/

namespace View

/-- One member under its attribute name or its document name; a document has none for `null`. -/
def member (view : View) (name camel : String) (v : Value) : Members Value :=
  match view, v with
  | .attributes, v => [(name, v)]
  | _, .null => []
  | _, v => [(camel, v)]

/-- One member that holds untyped data. -/
def data (view : View) (name : String) (v : Value) : Members Value :=
  match view, v with
  | .attributes, v => [(name, v)]
  | _, .null => []
  | .document, v => [(name, v)]
  | .portable, v => [(name, v.portable)]

end View

/-- A truth value that may be absent. -/
def Value.optionalTruth : Option Bool → Value := ofOption .bool

/-- A text that may be absent. -/
def Value.optionalText : Option String → Value := ofOption .str

/-- A whole number that may be absent. -/
def Value.optionalInt : Option Int → Value := ofOption .int

/-- A number that may be absent. -/
def Value.optionalNumber : Option Number → Value := ofOption Number.toValue

/-- Texts that may be absent. -/
def Value.optionalTexts : Option (List String) → Value := ofOption Value.texts

namespace Choice

/-- A choice by its members. -/
def members (view : View) (o : Choice) : Members Value :=
  [("id", .str o.id), ("value", .str o.value), ("label", .str o.label)] ++
    view.member "is_column" "isColumn" (.optionalTruth o.isColumn)

/-- A choice as an object. -/
def toValue (view : View) (o : Choice) : Value := .dict (o.members view)

end Choice

namespace Constraints

/-- Constraints by their members. -/
def members (view : View) (c : Constraints) : Members Value :=
  view.member "min" "min" (.optionalNumber c.min) ++
    view.member "max" "max" (.optionalNumber c.max) ++
    view.member "min_length" "minLength" (.optionalInt c.minLength) ++
    view.member "max_length" "maxLength" (.optionalInt c.maxLength) ++
    view.member "pattern" "pattern" (.optionalText c.pattern) ++
    view.member "allowed_file_types" "allowedFileTypes" (.optionalTexts c.allowedFileTypes) ++
    view.member "max_file_size" "maxFileSize" (.optionalNumber c.maxFileSize) ++
    view.member "max_files" "maxFiles" (.optionalInt c.maxFiles) ++
    view.member "custom_message" "customMessage" (.optionalText c.customMessage)

/-- Constraints as an object. -/
def toValue (view : View) (c : Constraints) : Value := .dict (c.members view)

end Constraints

namespace Condition

/-- A condition by its members. -/
def members (view : View) (c : Condition) : Members Value :=
  view.member "source_field_id" "sourceFieldId" (.str c.source) ++
    [("operator", .str c.operator.name)] ++ view.data "value" c.value

/-- A condition as an object. -/
def toValue (view : View) (c : Condition) : Value := .dict (c.members view)

end Condition

namespace Field

mutual

/-- A field by its members. -/
def members (view : View) : Field → List (String × Value)
  | ⟨id, type, label, required, placeholder, helpText, options, constraints, conditions,
      subFields⟩ =>
    [("id", .str id), ("type", .str type.name), ("label", .str label),
      ("required", .bool required)] ++
    view.member "placeholder" "placeholder" (.optionalText placeholder) ++
    view.member "help_text" "helpText" (.optionalText helpText) ++
    view.member "options" "options" (.ofOption (fun os => .list (os.map (·.toValue view))) options) ++
    view.member "validations" "validations" (.ofOption (·.toValue view) constraints) ++
    view.member "conditions" "conditions"
      (.ofOption (fun cs => .list (cs.map (·.toValue view))) conditions) ++
    view.member "sub_fields" "subFields" (childrenValue view subFields)

/-- Sub-fields that may be absent. -/
def childrenValue (view : View) : Option (List Field) → Value
  | none => .null
  | some fields => .list (listValues view fields)

/-- Fields as objects. -/
def listValues (view : View) : List Field → List Value
  | [] => []
  | f :: fs => .dict (f.members view) :: listValues view fs

end

/-- A field as an object. -/
def toValue (view : View) (f : Field) : Value := .dict (f.members view)

end Field

namespace Settings

/-- Settings by their members. -/
def members (view : View) (s : Settings) : Members Value :=
  view.member "show_progress_bar" "showProgressBar" (.bool s.showProgressBar) ++
    view.member "show_page_titles" "showPageTitles" (.bool s.showPageTitles) ++
    view.member "confirmation_message" "confirmationMessage" (.str s.confirmationMessage)

/-- Settings as an object. -/
def toValue (view : View) (s : Settings) : Value := .dict (s.members view)

end Settings

namespace Schema

/-- A schema by its members. -/
def members (view : View) (s : Schema) : Members Value :=
  [("title", .str s.title), ("description", .str s.description),
    ("fields", .list (Field.listValues view s.fields)), ("settings", s.settings.toValue view)]

/-- A schema as an object. -/
def toValue (view : View) (s : Schema) : Value := .dict (s.members view)

/-- The schema as a JSON document that can be imported again. -/
def exported (s : Schema) : Value := s.toValue .portable

end Schema

/-! ### Ready-made parts -/

/-- A choice that can be handed in as it is. -/
def Choice.asRecord (o : Choice) : Value := .record .choice (o.members .document)

/-- A condition that can be handed in as it is. -/
def Condition.asRecord (c : Condition) : Value := .record .condition (c.members .document)

/-- A field that can be handed in as it is. -/
def Field.asRecord (f : Field) : Value := .record .field (f.members .document)

/-- A schema that can be handed in as it is. -/
def Schema.asRecord (s : Schema) : Value := .record .schema (s.members .document)

/-- Constraints that can be handed in as they are. -/
def Constraints.asRecord (c : Constraints) : Value := .record .constraints (c.members .document)

end Questionnaire
