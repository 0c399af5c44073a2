import Questionnaire.Builder.Place

/-!
# Conditions

Conditions are added to top-level fields, with a source and an operator that are found if none are
named, changed, and removed by their position.

The conditions of a field are put in their place as a whole.  That to hand them on as a change of the
field comes to the same is `Store.updateField_conditions`.
-/

namespace Questionnaire

namespace Builder

/-- The operators that are offered for a source. -/
def availableOperators (s : Schema) (source : Value) : Outcome (List Operator) :=
  match s.field? source with
  | some f => .ok (Operator.offeredFor f.type)
  | none => refuse (.noField source)

/-- The source of a new condition: the first other field, unless one is named. -/
def conditionSource (s : Schema) (f : Field) (id source : Value) : Outcome Value :=
  match source with
  | .null =>
    match s.fields.filter (·.id ≠ f.id) with
    | [] => refuse (.noOtherField id)
    | other :: _ => .ok (.str other.id)
  | source => .ok source

/-- The operator of a new condition: the first one offered for the source, unless one is named. -/
def conditionOperator (s : Schema) (source operator : Value) : Value :=
  match operator with
  | .null =>
    match s.field? source with
    | some f => .str (((Operator.offeredFor f.type).head?.getD .equals).name)
    | none => .str Operator.equals.name
  | operator => operator

/-- Puts conditions in the place of those of a top-level field. -/
def putConditions (s : Store) (f : Field) (conditions : List Condition) : Outcome Store :=
  s.putAt ⟨none, f⟩ { f with conditions := some conditions }

/-- Adds a condition at the end; gives its position. -/
def addCondition (s : Store) (id source operator value : Value) : Outcome (Store × Nat) := do
  let f ← s.schema.conditioned id
  let source ← conditionSource s.schema f id source
  let operator := conditionOperator s.schema source operator
  let new := Condition.ofMembers
    [("source_field_id", source), ("operator", operator), ("value", value)]
  let condition ← Outcome.ofUnread (new.outcome .condition)
  pure (← putConditions s f (f.conditionList ++ [condition]), f.conditionList.length)

/-- The position of a condition of a field. -/
def conditionIndex (f : Field) (id index : Value) : Outcome Nat :=
  let within := fun (n : Int) => (if 0 ≤ n ∧ n < f.conditionList.length then .ok n.toNat
    else refuse (.noCondition id index) : Outcome Nat)
  match index with
  | .int n => within n
  | .bool b => within (if b then 1 else 0)
  | .float x =>
    if (Number.float x).lt (.ofNat 0) || !(Number.float x).lt (.ofNat f.conditionList.length) then
      refuse (.noCondition id index)
    else misuse (.noPosition index)
  | v => misuse (.noOrder "<=" (.int 0) v)

/-- Replaces members of a condition. -/
def updateCondition (s : Store) (id index changes : Value) : Outcome Store := do
  let f ← s.schema.conditioned id
  let n ← conditionIndex f id index
  let old := ((f.conditionList[n]?).map (·.members .document)).getD []
  let changes ← RecordKind.condition.documentMembers changes
  match Condition.ofMembers (Members.overlay old changes) with
  | .read condition => putConditions s f (f.conditionList.set n condition)
  | .refused ms => refuse (.unreadCondition id ms)

/-- Removes a condition. -/
def removeCondition (s : Store) (id index : Value) : Outcome Store := do
  let f ← s.schema.conditioned id
  let n ← conditionIndex f id index
  putConditions s f (f.conditionList.eraseIdx n)

end Builder
end Questionnaire
