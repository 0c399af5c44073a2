import Questionnaire.Builder.Conditions
import Questionnaire.Builder.Editing
import Questionnaire.Builder.Options

/-!
# Commands of the builder

`Builder.Command` lists everything that a form designer can do, the commands of the store among it.
`run` gives the new store, if the command makes one, and what the command answers.  It says so at once;
which ways the commands go through one another, down to the one that is announced, is in
`Designing.run`, and that both agree is `Designing.realizes_run`.
-/

namespace Questionnaire.Builder

/-- What a designer can do. -/
inductive Command where
  | store (command : Store.Command)
  | exportSchema
  | moveField (id index : Value)
  | generateId (taken : Value)
  | addField (type : Value)
  | updateField (id changes : Value)
  | updateConstraint (id name value : Value)
  | removeField (id : Value)
  | addSubField (parent type : Value)
  | updateSubField (parent id changes : Value)
  | removeSubField (parent id : Value)
  | addOption (id : Value)
  | updateOption (id option label : Value)
  | removeOption (id option : Value)
  | addRow (id : Value)
  | addColumn (id : Value)
  | availableOperators (source : Value)
  | addCondition (id source operator value : Value)
  | updateCondition (id index changes : Value)
  | removeCondition (id index : Value)

/-- What a command gives: a new store, if it makes one, and an answer. -/
structure Effect where
  store? : Option Store
  answer : Value

namespace Effect

/-- A new store and no answer. -/
def silent (s : Store) : Effect := ⟨some s, .null⟩

/-- A new store and the id of what is new in it. -/
def named (result : Store × String) : Effect := ⟨some result.1, .str result.2⟩

/-- An answer only. -/
def answering (v : Value) : Effect := ⟨none, v⟩

end Effect

/-- Runs a command. -/
def run (c : Config) (s : Store) : Command → Drawing Effect
  | .store command => do pure (.silent (← s.run c command))
  | .exportSchema => pure (.answering s.schema.exported)
  | .moveField id index => do pure (.silent (← moveField s id index))
  | .generateId taken => do pure (.answering (.str (← freshId c s.issued taken)))
  | .addField type => do pure (.named (← Builder.addField c s type))
  | .updateField id changes => do pure (.silent (← Builder.updateField s id changes))
  | .updateConstraint id name value => do
    pure (.silent (← Builder.updateConstraint s id name value))
  | .removeField id => do pure (.silent (← Builder.removeField s id))
  | .addSubField parent type => do pure (.named (← Builder.addSubField c s parent type))
  | .updateSubField parent id changes => do
    pure (.silent (← Builder.updateSubField s parent id changes))
  | .removeSubField parent id => do pure (.silent (← Builder.removeSubField s parent id))
  | .addOption id => do pure (.named (← Builder.addOption c s id))
  | .updateOption id option label => do
    pure (.silent (← Builder.updateOption s id option label))
  | .removeOption id option => do pure (.silent (← Builder.removeOption s id option))
  | .addRow id => do pure (.named (← Builder.addRow c s id))
  | .addColumn id => do pure (.named (← Builder.addColumn c s id))
  | .availableOperators source => do
    pure (.answering (.texts ((← Builder.availableOperators s.schema source).map (·.name))))
  | .addCondition id source operator value => do
    let (s, n) ← Builder.addCondition s id source operator value
    pure ⟨some s, .int n⟩
  | .updateCondition id index changes => do
    pure (.silent (← Builder.updateCondition s id index changes))
  | .removeCondition id index => do pure (.silent (← Builder.removeCondition s id index))

end Questionnaire.Builder
