import Questionnaire.Config
import Questionnaire.Session.Submission
import Questionnaire.Validation.Compilation
import Questionnaire.Visibility.Evaluator

/-!
# Sessions

A session is one form that is being filled in: the form with its contract, an answer for every
top-level field, and the set of the fields that are visible for these answers.

Operations are computations over the session (`InSession`) that may fail.  Each does its work step by
step, and the steps before the one that fails remain done.
-/

namespace Questionnaire

/-- A form that is being filled in. -/
structure Session where
  schema : Schema
  contract : Contract
  /-- An evaluator whose capacity is no number fails whenever it is asked. -/
  evaluator : Outcome Evaluator
  answers : Members Value
  /-- The ids of the visible fields. -/
  visible : List String
  deriving Inhabited

/-- A computation over a session that may fail; what it did before remains done. -/
abbrev InSession (α : Type) := ExceptT Fault (StateM Session) α

namespace InSession

/-- A computation that does nothing to the session. -/
def ofOutcome {α : Type} (o : Outcome α) : InSession α := ExceptT.mk (pure o)

instance : MonadLift (Except Fault) (ExceptT Fault (StateM Session)) := ⟨ofOutcome⟩

end InSession

namespace Session

/-! ### Making and binding -/

/-- The answers of fields that nobody has touched. -/
def defaultAnswers (fields : List Field) : Members Value :=
  Members.ofPairs (fields.map fun f => (f.id, f.defaultAnswer))

/-- Finds out what is visible now. -/
def recompute : InSession Unit := do
  let s ← get
  let evaluator ← InSession.ofOutcome s.evaluator
  let (evaluator, found) := evaluator.visible (.dict s.answers)
  set { s with evaluator := .ok evaluator }
  let visible ← InSession.ofOutcome found
  modify fun s => { s with visible }

/-- Takes a form with its contract. -/
def bind (c : Config) (schema : Schema) : InSession Unit := do
  modify fun s => { s with schema }
  let contract ← InSession.ofOutcome schema.compile
  modify fun s => { s with contract, evaluator := c.capacity.map (.new schema.fields) }

/-- Answers that are there from the start; those for unknown fields are dropped. -/
def initialAnswers (schema : Schema) (values : Value) : Outcome (Members Value) := do
  let defaults := defaultAnswers schema.fields
  if values.isTruthy then
    let given ← values.membersFor "items"
    pure (Members.overlay defaults (given.filter fun m => defaults.has m.1))
  else pure defaults

/-- A session over a form, with some answers. -/
def new (c : Config) (schema : Schema) (values : Value) : Outcome Session := do
  let contract ← schema.compile
  let answers ← initialAnswers schema values
  let capacity ← c.capacity
  let (evaluator, found) := (Evaluator.new schema.fields capacity).visible (.dict answers)
  pure ⟨schema, contract, .ok evaluator, answers, ← found⟩

/-- The answers for the fields of another form: those of fields that it also has are kept. -/
def carried (s : Session) (schema : Schema) : Members Value :=
  Members.ofPairs (schema.fields.map fun f =>
    (f.id, (s.answers.get? f.id).getD f.defaultAnswer))

/-- Goes on with another form. -/
def rebind (c : Config) (schema : Schema) : InSession Unit := do
  bind c schema
  modify fun s => { s with answers := s.carried schema }
  recompute

/-! ### Looking -/

/-- The top-level field with an id. -/
def requireField (s : Session) (id : Value) : Outcome Field :=
  match s.schema.field? id with
  | some f => .ok f
  | none => refuse (.noField id)

/-- The ids of the visible fields in the order of the form. -/
def visibleIds (s : Session) : List String := s.schema.fieldIds.filter (s.visible.contains ·)

/-- Whether a field is visible; a sub-field is when its section is. -/
def isVisible (s : Session) (id : Value) : Outcome Bool :=
  match s.schema.parent? id, id with
  | some p, _ => .ok (s.visible.contains p.id)
  | none, .set _ => .ok false
  | none, id => do
    id.requireHashable
    pure (s.visible.any (id.isText ·))

/-- The answer of a field, `null` when there is none. -/
def answer (s : Session) (id : String) : Value := (s.answers.get? id).getD .null

/-- The answer that a caller asks for. -/
def answerAt (s : Session) (id : Value) : Outcome Value := do
  pure (s.answer (← s.requireField id).id)

/-! ### Answering -/

/-- Puts an answer in place and finds out what is visible then. -/
def put (id : String) (v : Value) : InSession Unit := do
  modify fun s => { s with answers := s.answers.put id v }
  recompute

/-- Answers a field. -/
def setAnswer (id v : Value) : InSession Unit := do
  let f ← (← get).requireField id
  put f.id v

/-- Requires that there is a field for every id. -/
def requireFields (s : Session) : List Value → Outcome Unit
  | [] => .ok ()
  | id :: ids => do
    let _ ← s.requireField id
    requireFields s ids

/-- Answers several fields at once. -/
def updateAnswers (values : Value) : InSession Unit := do
  (← get).requireFields (← values.iterate)
  let given ← values.toMembers
  modify fun s => { s with answers := Members.overlay s.answers given }
  recompute

/-! ### Validating and submitting -/

/-- The report about the answers of the visible fields. -/
def validate (s : Session) : Outcome Report := s.contract.validate s.answers (some s.visible)

/-- Submits the answers. -/
def submit (s : Session) : Outcome Submission := do
  pure (.ofReport s.schema s.visible (← s.validate))

end Session
end Questionnaire
