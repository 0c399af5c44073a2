import Questionnaire.Builder.IdSource
import Questionnaire.Builder.Place

/-!
# New fields

A new field comes with the label and the parts that its type asks for: options for a choice, rows and
columns for a matrix, an empty list of sub-fields for a section.  The id of the field is drawn first,
then those of its options in their order.  With these it is read like a field that is handed in
(`Builder.read_template` says as what).
-/

namespace Questionnaire.Builder

/-- What is shown in an empty field, unless it takes files. -/
def defaultPlaceholder : String := "Enter your answer"

/-- An option, a row or a column that is the `n`-th of its kind. -/
def numbered (id word title : String) (n : Nat) (isColumn : Option Bool) : Choice :=
  ⟨id, word ++ toString n, title ++ " " ++ toString n, isColumn⟩

/-- What the options of a new field are: option, row or column, each with its number. -/
def optionPlan : FieldType → List (String × String × Nat × Option Bool)
  | .select | .multiSelect | .checkbox | .radio =>
    [1, 2, 3].map fun n => ("option", "Option", n, none)
  | .matrix =>
    ([1, 2].map fun n => ("row", "Row", n, some false)) ++
      [1, 2, 3].map fun n => ("column", "Column", n, some true)
  | _ => []

/-- Draws ids for the planned options, each other than those before it. -/
def drawOptions (c : Config) (issued : List String) (done : List Choice) :
    List (String × String × Nat × Option Bool) → Drawing (List Choice)
  | [] => pure done
  | (word, title, n, isColumn) :: plan => do
    let id ← freshId c issued (.texts (done.map (·.id)))
    drawOptions c issued (done ++ [numbered id word title n isColumn]) plan

/-- The data that a new field is read from; `top` tells whether it stands at the top of the form. -/
def template (id : String) (type : FieldType) (label : String) (top : Bool)
    (options : List Choice) : Value :=
  .dict ([("id", .str id), ("type", .str type.name), ("label", .str label),
    ("required", .bool false),
    ("placeholder", .str (if type.isFile then "" else defaultPlaceholder)),
    ("helpText", .str ""), ("options", .list (options.map Choice.asRecord)),
    ("validations", .dict [])] ++
    (if top then [("conditions", .list [])] else []) ++
    if type = .repeatable then [("subFields", .list [])] else [])

/-- A new field. -/
def newField (c : Config) (s : Store) (type : FieldType) (label : String) (top : Bool) :
    Drawing Field := do
  let id ← freshId c s.issued (.list [])
  let options ← drawOptions c s.issued [] (optionPlan type)
  Outcome.ofUnread ((Field.read (template id type label top options)).outcome .field)

/-- The field type that a value names. -/
def fieldType (v : Value) : Outcome FieldType :=
  match v.text?.bind FieldType.ofName? with
  | some type => .ok type
  | none => misuse (.notFieldType v)

/-- Adds a new field at the end; gives its id. -/
def addField (c : Config) (s : Store) (type : Value) : Drawing (Store × String) := do
  let type ← fieldType type
  let f ← newField c s type type.defaultLabel true
  pure (← s.append f, f.id)

/-- Adds a new sub-field at the end of a section; gives its id.  That to hand on the sub-fields as a
change of the section comes to the same is `Store.updateField_subFields`. -/
def addSubField (c : Config) (s : Store) (parent type : Value) : Drawing (Store × String) := do
  let p ← s.schema.sectionOf parent
  let type ← fieldType type
  if type = .repeatable then throw (.refusal (.sectionInSection parent))
  let f ← newField c s type (s!"Sub Field {p.children.length + 1}") false
  pure (← s.putAt ⟨none, p⟩ { p with subFields := some (p.children ++ [f]) }, f.id)

end Questionnaire.Builder
