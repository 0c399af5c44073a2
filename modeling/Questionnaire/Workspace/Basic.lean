import Questionnaire.Builder.IdSource
import Questionnaire.Session.Command

/-!
# Workspaces

A workspace is a store with everything around it: the stream of ids for new parts, a session, and the
listeners that are told of every form that the store takes up.  A listener is someone who subscribed,
or the session, which goes on with the new form.

What those who subscribed do when they are told is not part of the workspace.  It is a `Hearing`, any
computation over the workspace for each of them, which may run commands itself; what the workspace
remembers of the calls that were made lets it depend on all that they were told before.  `tellAll`
tells listeners one after the other, and stops at the first that fails.
-/

namespace Questionnaire

/-- Who is told of new forms. -/
inductive Listener where
  /-- Someone who subscribed, under a number. -/
  | subscriber (n : Nat)
  /-- The session goes on with the new form. -/
  | session
  deriving DecidableEq

/-- What a recorder was told: the title of a form and the ids of its top-level fields. -/
structure Notice where
  recorder : Nat
  title : String
  fieldIds : List String
  deriving DecidableEq

/-- A listener was told of a form. -/
structure Call where
  /-- The number of the announcement that the call was part of. -/
  announcement : Nat
  listener : Listener
  schema : Schema

/-- A store and what is around it. -/
structure Workspace where
  config : Config
  store : Store
  ids : IdSource
  session : Option Session
  /-- Those who are told of new forms, in the order in which they came. -/
  listeners : List Listener
  /-- How many ever subscribed. -/
  subscribers : Nat
  /-- What recorders noted. -/
  notices : List Notice
  /-- How many forms were ever announced. -/
  announcements : Nat
  /-- The calls of listeners, in the order in which they were made. -/
  calls : List Call

/-- A computation over a workspace that may fail; what it did before remains done. -/
abbrev InWorkspace (α : Type) := ExceptT Fault (StateM Workspace) α

namespace InWorkspace

/-- A computation that does nothing to the workspace. -/
def ofOutcome {α : Type} (o : Outcome α) : InWorkspace α := ExceptT.mk (pure o)

instance : MonadLift (Except Fault) (ExceptT Fault (StateM Workspace)) := ⟨ofOutcome⟩

/-- Draws ids from the stream of the workspace. -/
def ofDrawing {α : Type} (d : Drawing α) : InWorkspace α := ExceptT.mk do
  let w ← get
  let (o, ids) := d.run.run w.ids
  set { w with ids }
  pure o

/-- Works on the session, if there is one. -/
def onSession {α : Type} (absent : α) (d : InSession α) : InWorkspace α := ExceptT.mk do
  let w ← get
  match w.session with
  | none => pure (.ok absent)
  | some s => do
    let (o, s) := d.run.run s
    set { w with session := some s }
    pure o

end InWorkspace

/-! ### Telling the listeners -/

/-- What those who subscribed do when they are told of a form, each under its number. -/
abbrev Hearing := Nat → Schema → InWorkspace Unit

/-- Everyone who subscribed is a recorder, who notes what it is told. -/
def Hearing.recording : Hearing := fun n schema =>
  modify fun w => { w with notices := w.notices ++ [⟨n, schema.title, schema.fieldIds⟩] }

namespace Workspace

variable (hear : Hearing)

/-- A listener does what it does when it is told of a form. -/
def answerCall (schema : Schema) : Listener → InWorkspace Unit
  | .subscriber n => hear n schema
  | .session => do InWorkspace.onSession () (Session.rebind (← get).config schema)

/-- Tells one listener of a form. -/
def tell (announcement : Nat) (schema : Schema) (l : Listener) : InWorkspace Unit := do
  modify fun w => { w with calls := w.calls ++ [⟨announcement, l, schema⟩] }
  answerCall hear schema l

/-- Tells listeners one after the other. -/
def tellAll (announcement : Nat) (schema : Schema) : List Listener → InWorkspace Unit
  | [] => pure ()
  | l :: ls => do
    tell hear announcement schema l
    tellAll announcement schema ls

/-- Takes up a store and tells those who listen then of its form. -/
def takeUp (store : Store) : InWorkspace Unit := do
  let w ← get
  set { w with store, announcements := w.announcements + 1 }
  tellAll hear w.announcements store.schema w.listeners

end Workspace
end Questionnaire
