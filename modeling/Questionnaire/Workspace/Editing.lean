import Questionnaire.Workspace.Basic

/-!
# Commands of the store in a workspace

Each command makes a complete new form of the one that the store has, and hands it to `commit` or
`replace`, which refuse it or take it up and tell all listeners of it.  A refused command changes
nothing, since everything before the commit only looks at the store.
-/

namespace Questionnaire.Editing

variable (hear : Hearing)

/-- Makes a form the current one, if it is sound, and tells all listeners. -/
def commit (schema : Schema) : InWorkspace Unit := do
  let w ← get
  Workspace.takeUp hear (← w.store.commit schema)

/-- Makes a form the current one and starts a new ledger, if it is sound, and tells all listeners. -/
def replace (schema : Schema) : InWorkspace Unit := do
  Workspace.takeUp hear (← Store.replace schema)

/-- Changes the title. -/
def setTitle (title : Value) : InWorkspace Unit := do
  let w ← get
  commit hear (← w.store.revised "set_title" "title" title)

/-- Changes the description. -/
def setDescription (description : Value) : InWorkspace Unit := do
  let w ← get
  commit hear (← w.store.revised "set_description" "description" description)

/-- Adds a field that a caller hands in at the end. -/
def addField (v : Value) : InWorkspace Unit := do
  let f ← Store.fieldOf v
  let w ← get
  commit hear (w.store.extended f)

/-- Replaces members of a top-level field. -/
def updateField (id changes : Value) : InWorkspace Unit := do
  let w ← get
  commit hear (← w.store.updated id changes)

/-- Removes a top-level field. -/
def removeField (id : Value) : InWorkspace Unit := do
  let w ← get
  commit hear (← w.store.without id)

/-- Replaces the list of fields by one with the same ids. -/
def reorderFields (v : Value) : InWorkspace Unit := do
  let w ← get
  commit hear (← w.store.reordered v)

/-- Replaces some of the settings. -/
def updateSettings (changes : Value) : InWorkspace Unit := do
  let w ← get
  commit hear (← w.store.resettled changes)

/-- Starts over with a new form. -/
def reset : InWorkspace Unit := do
  let w ← get
  replace hear (← Outcome.ofUnread w.config.newSchema)

/-- Replaces the form by one that a caller hands in. -/
def importSchema (v : Value) : InWorkspace Unit := do
  let w ← get
  replace hear (← Store.handed w.config v)

/-- Runs a command. -/
def run : Store.Command → InWorkspace Unit
  | .setTitle title => setTitle hear title
  | .setDescription description => setDescription hear description
  | .addField field => addField hear field
  | .updateField id changes => updateField hear id changes
  | .removeField id => removeField hear id
  | .reorderFields fields => reorderFields hear fields
  | .updateSettings changes => updateSettings hear changes
  | .reset => reset hear
  | .importSchema schema => importSchema hear schema

end Questionnaire.Editing
