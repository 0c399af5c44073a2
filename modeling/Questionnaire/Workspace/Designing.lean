import Questionnaire.Builder.Command
import Questionnaire.Workspace.Editing

/-!
# Commands of the builder in a workspace

A command of the builder finds the field that it is about, makes a part of it anew, and hands this
part on: to the command that updates a field wherever it stands, which hands it on to the one that
updates a sub-field, or at once to a command of the store.  So each ends in a command of the store,
which announces what it takes up.

Fields, options and conditions that were made or read before are handed on as they are.
-/

namespace Questionnaire.Designing

variable (hear : Hearing)

/-! ### Fields -/

/-- Moves a top-level field to a position. -/
def moveField (id index : Value) : InWorkspace Unit := do
  let w ← get
  match w.store.schema.field? id with
  | none => throw (.refusal (.noField id))
  | some f => do
    let others := w.store.schema.fields.filter (·.id ≠ f.id)
    let n ← Builder.insertionIndex index others.length
    Editing.reorderFields hear (.list ((others.take n ++ f :: others.drop n).map Field.asRecord))

/-- An id that no field has or had and that is not among those taken. -/
def generateId (taken : Value) : InWorkspace String := do
  let w ← get
  InWorkspace.ofDrawing (freshId w.config w.store.issued taken)

/-- Adds a new field at the end; gives its id. -/
def addField (type : Value) : InWorkspace String := do
  let type ← Builder.fieldType type
  let w ← get
  let f ← InWorkspace.ofDrawing (Builder.newField w.config w.store type type.defaultLabel true)
  Editing.addField hear f.asRecord
  pure f.id

/-- Puts sub-fields in the place of those of a section. -/
def putSubFields (parent : Value) (fields : List Field) : InWorkspace Unit :=
  Editing.updateField hear parent (.dict [("subFields", .list (fields.map Field.asRecord))])

/-- Replaces members of a sub-field of a section. -/
def updateSubField (parent id changes : Value) : InWorkspace Unit := do
  let w ← get
  let p ← w.store.schema.sectionOf parent
  let f ← p.requireChild id
  let changes ← Builder.completeChanges f changes
  if (changes.get? "conditions").any (·.isTruthy) then throw (.refusal (.conditionOnChild id))
  else
    match Store.overlaid f changes with
    | .read g => putSubFields hear parent (p.putChild f.id g).children
    | .refused ms => throw (.refusal (.unreadChildUpdate id ms))

/-- Replaces members of a field; its constraints are changed one by one. -/
def updateField (id changes : Value) : InWorkspace Unit := do
  let w ← get
  let place ← w.store.schema.locate id
  match place.owner? with
  | some p => updateSubField hear (.str p.id) id changes
  | none => do
    let changes ← Builder.completeChanges place.field changes
    Editing.updateField hear id (.dict changes)

/-- Replaces one constraint of a field; `null` takes it away. -/
def updateConstraint (id name value : Value) : InWorkspace Unit := do
  name.requireHashable
  match name.text? with
  | some name => updateField hear id (.dict [("validations", .dict [(name, value)])])
  | none => do
    let w ← get
    let _ ← w.store.schema.locate id
    throw (.refusal (.unknownMember .constraints name))

/-- Adds a new sub-field at the end of a section; gives its id. -/
def addSubField (parent type : Value) : InWorkspace String := do
  let w ← get
  let p ← w.store.schema.sectionOf parent
  let type ← Builder.fieldType type
  if type = .repeatable then throw (.refusal (.sectionInSection parent))
  else do
    let label := s!"Sub Field {p.children.length + 1}"
    let f ← InWorkspace.ofDrawing (Builder.newField w.config w.store type label false)
    putSubFields hear parent (p.children ++ [f])
    pure f.id

/-- Removes a sub-field. -/
def removeSubField (parent id : Value) : InWorkspace Unit := do
  let w ← get
  let p ← w.store.schema.sectionOf parent
  let f ← p.requireChild id
  putSubFields hear parent (p.children.filter (·.id ≠ f.id))

/-- Removes a field. -/
def removeField (id : Value) : InWorkspace Unit := do
  let w ← get
  let place ← w.store.schema.locate id
  match place.owner? with
  | some p => removeSubField hear (.str p.id) id
  | none => Editing.removeField hear id

/-! ### Options -/

/-- Puts options in the place of those of a field. -/
def putOptions (id : Value) (options : List Choice) : InWorkspace Unit :=
  updateField hear id (.dict [("options", .list (options.map Choice.asRecord))])

/-- Adds an option, a row or a column at the end; gives its id. -/
def addNumbered (id : Value) (options : List Choice) (word title : String) (n : Nat)
    (isColumn : Option Bool) : InWorkspace String := do
  let new ← generateId (.texts (options.map (·.id)))
  putOptions hear id (options ++ [Builder.numbered new word title n isColumn])
  pure new

/-- Adds an option at the end; gives its id. -/
def addOption (id : Value) : InWorkspace String := do
  let w ← get
  let place ← w.store.schema.locate id
  let options := place.field.choices
  addNumbered hear id options "option" "Option" (options.length + 1) none

/-- Adds a row or a column to a matrix; gives its id. -/
def addLine (id : Value) (column : Bool) : InWorkspace String := do
  let w ← get
  let place ← w.store.schema.locate id
  let f := place.field
  if f.type ≠ .matrix then throw (.refusal (.notMatrix id))
  else if column then
    addNumbered hear id f.choices "column" "Column" (f.columns.length + 1) (some true)
  else addNumbered hear id f.choices "row" "Row" (f.rows.length + 1) (some false)

/-- Gives an option a label, and the value that goes with it. -/
def updateOption (id option label : Value) : InWorkspace Unit := do
  let w ← get
  let place ← w.store.schema.locate id
  let o ← place.field.requireChoice id option
  let value ← Choice.valueOfLabel label
  let label := (label.text?).getD ""
  putOptions hear id (place.field.choices.map fun p =>
    if p.id = o.id then { p with label, value } else p)

/-- Removes an option. -/
def removeOption (id option : Value) : InWorkspace Unit := do
  let w ← get
  let place ← w.store.schema.locate id
  let o ← place.field.requireChoice id option
  putOptions hear id (place.field.choices.filter (·.id ≠ o.id))

/-! ### Conditions -/

/-- Puts conditions in the place of those of a top-level field. -/
def putConditions (id : Value) (conditions : List Condition) : InWorkspace Unit :=
  Editing.updateField hear id (.dict [("conditions", .list (conditions.map Condition.asRecord))])

/-- Adds a condition at the end; gives its position. -/
def addCondition (id source operator value : Value) : InWorkspace Nat := do
  let w ← get
  let f ← w.store.schema.conditioned id
  let source ← Builder.conditionSource w.store.schema f id source
  let operator := Builder.conditionOperator w.store.schema source operator
  let new := Condition.ofMembers
    [("source_field_id", source), ("operator", operator), ("value", value)]
  let condition ← Outcome.ofUnread (new.outcome .condition)
  putConditions hear id (f.conditionList ++ [condition])
  pure f.conditionList.length

/-- Replaces members of a condition. -/
def updateCondition (id index changes : Value) : InWorkspace Unit := do
  let w ← get
  let f ← w.store.schema.conditioned id
  let n ← Builder.conditionIndex f id index
  let old := ((f.conditionList[n]?).map (·.members .document)).getD []
  let changes ← RecordKind.condition.documentMembers changes
  match Condition.ofMembers (Members.overlay old changes) with
  | .read condition => putConditions hear id (f.conditionList.set n condition)
  | .refused ms => throw (.refusal (.unreadCondition id ms))

/-- Removes a condition. -/
def removeCondition (id index : Value) : InWorkspace Unit := do
  let w ← get
  let f ← w.store.schema.conditioned id
  let n ← Builder.conditionIndex f id index
  putConditions hear id (f.conditionList.eraseIdx n)

/-! ### Commands -/

/-- Runs a command. -/
def run : Builder.Command → InWorkspace Value
  | .store command => do Editing.run hear command; pure .null
  | .exportSchema => do pure (← get).store.schema.exported
  | .moveField id index => do moveField hear id index; pure .null
  | .generateId taken => do pure (.str (← generateId taken))
  | .addField type => do pure (.str (← addField hear type))
  | .updateField id changes => do updateField hear id changes; pure .null
  | .updateConstraint id name value => do updateConstraint hear id name value; pure .null
  | .removeField id => do removeField hear id; pure .null
  | .addSubField parent type => do pure (.str (← addSubField hear parent type))
  | .updateSubField parent id changes => do updateSubField hear parent id changes; pure .null
  | .removeSubField parent id => do removeSubField hear parent id; pure .null
  | .addOption id => do pure (.str (← addOption hear id))
  | .updateOption id option label => do updateOption hear id option label; pure .null
  | .removeOption id option => do removeOption hear id option; pure .null
  | .addRow id => do pure (.str (← addLine hear id false))
  | .addColumn id => do pure (.str (← addLine hear id true))
  | .availableOperators source => do
    let w ← get
    let operators ← Builder.availableOperators w.store.schema source
    pure (.texts (operators.map (·.name)))
  | .addCondition id source operator value => do
    pure (.int (← addCondition hear id source operator value))
  | .updateCondition id index changes => do updateCondition hear id index changes; pure .null
  | .removeCondition id index => do removeCondition hear id index; pure .null

end Questionnaire.Designing
