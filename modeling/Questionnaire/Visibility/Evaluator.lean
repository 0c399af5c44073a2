import Questionnaire.Form.Schema
import Questionnaire.Value.Iteration
import Questionnaire.Visibility.Comparison
import Questionnaire.Visibility.Frozen

/-!
# Visible fields

A field without conditions is visible; one with conditions is visible when all of them hold.  A
condition whose source is the field itself or no top-level field never holds.

`visibleIn` says which of a list of fields are visible for some answers.  An `Evaluator` does the
same for many answers one after the other and remembers what it found for the latest of them, as
many as its capacity allows.  Answers that cannot be frozen are evaluated afresh every time.
-/

namespace Questionnaire

/-! ### Without memory -/

/-- The answers that fields are judged by: `null` and anything empty count as no answers. -/
def effectiveAnswers (answers : Value) : Value := if answers.isTruthy then answers else .dict []

/-- The answer of a field; `null` when there is none. -/
def answerOf (answers : Value) (id : String) : Outcome Value := do
  pure (((← answers.membersFor "get").get? id).getD .null)

namespace Condition

/-- Whether the condition of a field holds for some answers; `sources` are the ids of the top-level
fields. -/
def holds (sources : List String) (field : String) (c : Condition) (answers : Value) :
    Outcome Bool := do
  if c.source = field ∨ c.source ∉ sources then pure false
  else c.operator.holds (← answerOf answers c.source) c.value

/-- Whether all conditions of a field hold; those after one that does not are not looked at. -/
def allHold (sources : List String) (field : String) (answers : Value) :
    List Condition → Outcome Bool
  | [] => .ok true
  | c :: cs => do
    if ← c.holds sources field answers then allHold sources field answers cs else pure false

end Condition

/-- Whether a field is visible for some answers. -/
def Field.isVisible (sources : List String) (f : Field) (answers : Value) : Outcome Bool :=
  Condition.allHold sources f.id answers f.conditionList

/-- The ids of the fields that are visible, in their order. -/
def visibleAmong (sources : List String) (answers : Value) : List Field → Outcome (List String)
  | [] => .ok []
  | f :: fs => do
    let visible ← f.isVisible sources answers
    let rest ← visibleAmong sources answers fs
    pure (if visible then f.id :: rest else rest)

/-- The ids of the top-level fields that are visible for some answers, in their order. -/
def visibleIn (fields : List Field) (answers : Value) : Outcome (List String) :=
  visibleAmong (fields.map (·.id)) (effectiveAnswers answers) fields

/-! ### With memory -/

/-- Fields, and what was found for the latest answers. -/
structure Evaluator where
  fields : List Field
  /-- How many results are kept; none if this is not positive. -/
  capacity : Number
  /-- The results kept by the keys of their answers, the latest last. -/
  cache : List (Frozen × List String)
  deriving Inhabited

namespace Evaluator

/-- An evaluator that remembers nothing yet. -/
def new (fields : List Field) (capacity : Number) : Evaluator := ⟨fields, capacity, []⟩

/-- The key of some answers; `none` when nothing is to be remembered for them. -/
def key (e : Evaluator) (answers : Value) : Outcome (Option Frozen) :=
  if !(Number.int 0).lt e.capacity && !e.capacity.point?.isNone then .ok none
  else
    match (do (Datum.ofPairs (← answers.toPairs)).freeze : Outcome Frozen) with
    | .ok frozen => .ok (some frozen.key)
    | .error (.misuse m) => if m.family = .type then .ok none else misuse m
    | .error f => .error f

/-- Remembers a result as the latest, and forgets the oldest one if there are too many. -/
def remember (e : Evaluator) (key : Frozen) (visible : List String) : Evaluator :=
  let cache := e.cache ++ [(key, visible)]
  { e with cache := if e.capacity.lt (.ofNat cache.length) then cache.drop 1 else cache }

/-- Makes a remembered result the latest. -/
def refresh (e : Evaluator) (key : Frozen) (visible : List String) : Evaluator :=
  { e with cache := e.cache.filter (·.1 ≠ key) ++ [(key, visible)] }

/-- The visible fields for some answers, from memory if they are remembered. -/
def visible (e : Evaluator) (answers : Value) : Evaluator × Outcome (List String) :=
  let answers := effectiveAnswers answers
  match e.key answers with
  | .error f => (e, .error f)
  | .ok none => (e, visibleIn e.fields answers)
  | .ok (some key) =>
    match e.cache.lookup key with
    | some found => (e.refresh key found, .ok found)
    | none =>
      match visibleIn e.fields answers with
      | .error f => (e, .error f)
      | .ok found => (e.remember key found, .ok found)

/-- The ids of all fields that share theirs with a visible one, in the order of the fields. -/
def visibleFields (e : Evaluator) (answers : Value) : Evaluator × Outcome (List String) :=
  let (e, found) := e.visible answers
  (e, found.map fun ids => (e.fields.map (·.id)).filter (ids.contains ·))

/-- The top-level field that a sub-field belongs to, for each sub-field. -/
def owners (e : Evaluator) : Members String :=
  Members.ofPairs (e.fields.flatMap fun f => f.children.map fun s => (s.id, f.id))

/-- Whether a field is visible; a sub-field is when the field that it belongs to is. -/
def isVisible (e : Evaluator) (id answers : Value) : Evaluator × Outcome Bool :=
  match id.requireHashable with
  | .error f => (e, .error f)
  | .ok _ =>
    let owner := id.text?.map fun s => (e.owners.get? s).getD s
    let (e, found) := e.visible answers
    (e, found.map fun ids => owner.any (ids.contains ·))

end Evaluator
end Questionnaire
