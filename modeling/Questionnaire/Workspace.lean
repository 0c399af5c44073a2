import Questionnaire.Workspace.Designing

/-!
# Commands of a workspace

`Workspace.run` runs a command where everyone who subscribed is a recorder, and `Workspace.runWith`
does so whatever they do when they are told of a form.  A command of the store or of the builder that
changes the form announces it while it runs: the store takes up the form before the listeners are
told, in the order in which they came.  A listener that fails, such as a session that cannot go on
with the form, makes the command fail, but the store keeps the form, and the listeners after it are
told nothing.
-/

namespace Questionnaire

namespace Workspace

/-! ### Making -/

/-- How a session comes into a workspace: with which answers, and whether it follows the store. -/
structure SessionPlan where
  values : Value
  follows : Bool

/-- A workspace over a form, or over a new one. -/
def new (c : Config) (ids : IdSource) (schema : Value) (plan : Option SessionPlan) :
    Outcome Workspace := do
  let store ← Store.new c (if schema matches .null then none else some schema)
  let w : Workspace := ⟨c, store, ids, none, [], 0, [], 0, []⟩
  match plan with
  | none => pure w
  | some plan => do
    let session ← Session.new c store.schema plan.values
    pure { w with
      session := some session
      listeners := if plan.follows then [.session] else [] }

/-! ### Commands -/

/-- What can be done in a workspace. -/
inductive Command where
  | store (command : Store.Command)
  | exportSchema
  | subscribe
  /-- Someone who subscribed once is told nothing any more. -/
  | unsubscribe (n : Nat)
  | builder (command : Builder.Command)
  | session (command : Session.Command)
  /-- The session no longer follows the store. -/
  | detach

/-- Runs a command, whatever those who subscribed do when they are told of a form. -/
def runWith (hear : Hearing) : Command → InWorkspace Session.Answer
  | .store command => do Editing.run hear command; pure (.value .null)
  | .exportSchema => do pure (.value (← get).store.schema.exported)
  | .subscribe => do
    let w ← get
    let listeners := w.listeners ++ [Listener.subscriber w.subscribers]
    set { w with listeners, subscribers := w.subscribers + 1 }
    pure (.value (.int w.subscribers))
  | .unsubscribe n => do
    if (← get).subscribers ≤ n then throw (.misuse (.positionOutOfRange false))
    modify fun (w : Workspace) => { w with listeners := w.listeners.erase (.subscriber n) }
    pure (.value .null)
  | .builder command => do pure (.value (← Designing.run hear command))
  | .session command => InWorkspace.onSession (.value .null) (Session.run command)
  | .detach => do
    modify fun (w : Workspace) => { w with listeners := w.listeners.erase .session }
    pure (.value .null)

/-- Runs a command where everyone who subscribed is a recorder. -/
def run : Command → InWorkspace Session.Answer := runWith .recording

end Workspace
end Questionnaire
