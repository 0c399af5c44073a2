import Questionnaire.Builder.Place

/-!
# Moving, changing and removing fields

Changes replace members as a whole, with one exception: the constraints of a field are changed one by
one.  Sub-fields are changed in the same way as top-level fields, but have no conditions.

Each command says at once what it makes of the form.  It could as well hand on the fields that it made
to a command of the store, as a change of their section (`Store.updateField_subFields`) or as the
fields of the form in another order (`Store.reorderFields_asRecord`); in a workspace it goes this way,
and does what is said here (`Designing.realizes_run`).
-/

namespace Questionnaire

namespace Builder

/-- The position at which an item is inserted among `count` others: at most at the end, at least at
the start. -/
def insertionIndex (v : Value) (count : Nat) : Outcome Nat :=
  match v with
  | .bool b => .ok (min (if b then 1 else 0) count)
  | .int n => .ok (min n.toNat count)
  | .float x =>
    if (Number.ofNat count).lt (.float x) then .ok count
    else if (Number.ofNat 0).lt (.float x) then misuse (.noInteger v)
    else .ok 0
  | v => misuse (.noOrder "<" (.int 0) v)

/-- Moves a top-level field to a position; the fields in their new order have the same ids, so they
may as well be handed on (`Store.reorderFields_asRecord`). -/
def moveField (s : Store) (id index : Value) : Outcome Store :=
  match s.schema.field? id with
  | none => refuse (.noField id)
  | some f => do
    let others := s.schema.fields.filter (·.id ≠ f.id)
    let n ← insertionIndex index others.length
    s.commit { s.schema with fields := others.take n ++ f :: others.drop n }

/-- The changes of a field under their names in documents, with its constraints made complete by the
ones it has. -/
def completeChanges (f : Field) (changes : Value) : Outcome (Members Value) := do
  let changes ← RecordKind.field.documentMembers changes
  match changes.get? "validations" with
  | none | some .null => pure changes
  | some new =>
    let new := match new with
      | .record .constraints ms => .dict ms
      | v => v
    let old := (f.constraints.map (·.members .document)).getD []
    let new ← RecordKind.constraints.documentMembers new
    pure (changes.put "validations" (.dict (Members.overlay old new)))

/-- Replaces members of a sub-field of a section. -/
def updateSubField (s : Store) (parent id changes : Value) : Outcome Store := do
  let p ← s.schema.sectionOf parent
  let f ← p.requireChild id
  let changes ← completeChanges f changes
  if (changes.get? "conditions").any (·.isTruthy) then refuse (.conditionOnChild id)
  else
    match Store.overlaid f changes with
    | .read g => s.putAt ⟨some p, f⟩ g
    | .refused ms => refuse (.unreadChildUpdate id ms)

/-- Replaces members of a field; its constraints are changed one by one. -/
def updateField (s : Store) (id changes : Value) : Outcome Store := do
  let place ← s.schema.locate id
  match place.owner? with
  | some p => updateSubField s (.str p.id) id changes
  | none => s.updateField id (.dict (← completeChanges place.field changes))

/-- Replaces one constraint of a field; `null` takes it away. -/
def updateConstraint (s : Store) (id name value : Value) : Outcome Store := do
  name.requireHashable
  match name.text? with
  | some name => updateField s id (.dict [("validations", .dict [(name, value)])])
  | none => do
    let _ ← s.schema.locate id
    refuse (.unknownMember .constraints name)

/-- Removes a sub-field. -/
def removeSubField (s : Store) (parent id : Value) : Outcome Store := do
  let p ← s.schema.sectionOf parent
  let f ← p.requireChild id
  s.putAt ⟨none, p⟩ { p with subFields := some (p.children.filter (·.id ≠ f.id)) }

/-- Removes a field. -/
def removeField (s : Store) (id : Value) : Outcome Store := do
  let place ← s.schema.locate id
  match place.owner? with
  | some p => removeSubField s (.str p.id) id
  | none => s.removeField id

end Builder
end Questionnaire
