import Questionnaire.Fault
import Questionnaire.Form.Schema

/-!
# Integrity of forms

A list of fields is sound when no id occurs twice among all fields and sub-fields, no id is retired,
no field has a condition on itself, the options of each field have distinct ids, and only top-level
repeatable sections have sub-fields.

`checkFields` goes through the fields in the order of the document and refuses the first that breaks
a rule.
-/

namespace Questionnaire

namespace Field

/-- Whether an id occurs twice among choices. -/
def hasDuplicateChoice : List Choice → Bool
  | [] => false
  | o :: os => os.any (·.id = o.id) || hasDuplicateChoice os

mutual

/-- Checks a field and its sub-fields; `seen` are the ids before it.  The result is the ids up to the
end of the field. -/
def check (retired : List String) (nested : Bool) :
    Field → List String → Except Refusal (List String)
  | ⟨id, type, _, _, _, _, options, _, conditions, subFields⟩, seen => do
    if id ∈ seen then throw (.duplicateId id)
    if id ∈ retired then throw (.retiredId id)
    if (conditions.getD []).any (·.source = id) then throw (.selfCondition id)
    if hasDuplicateChoice (options.getD []) then throw (.duplicateChoice id)
    if nested ∧ type = .repeatable then throw (.nestedSection id)
    checkChildren retired id type subFields (id :: seen)

/-- Checks the sub-fields of a field. -/
def checkChildren (retired : List String) (id : String) (type : FieldType) :
    Option (List Field) → List String → Except Refusal (List String)
  | none, seen => pure seen
  | some [], seen => pure seen
  | some (f :: fs), seen => do
    if type ≠ .repeatable then throw (.strayChildren id type)
    checkList retired true fs (← check retired true f seen)

/-- Checks fields one after the other. -/
def checkList (retired : List String) (nested : Bool) :
    List Field → List String → Except Refusal (List String)
  | [], seen => pure seen
  | f :: fs, seen => do checkList retired nested fs (← check retired nested f seen)

end
end Field

/-- Refuses fields that are not sound, or that use a retired id. -/
def checkFields (fields : List Field) (retired : List String) : Except Refusal Unit := do
  let _ ← Field.checkList retired false fields []

end Questionnaire
