import Questionnaire.Form.Schema
import Questionnaire.Validation.Contract

/-!
# From schemas to contracts

`Schema.compile` makes the contract of a schema.  A text field whose pattern is defective gets a rule
that accepts anything, and an issue.  Conditions that can never hold and conditions on sub-fields are
issues too.
-/

namespace Questionnaire

namespace Field

/-- The rule of a text field: defective patterns make it unusable. -/
def textRule (id : String) (head : RuleHead) (c : Constraints) : Outcome (Rule × List Issue) :=
  let pattern := c.pattern.filter (· ≠ "")
  let rule : Rule := .string head c.minLength c.maxLength pattern false
  match pattern with
  | none => .ok (rule, [])
  | some p =>
    match Pattern.read p with
    | .ok _ => .ok (rule, [])
    | .error fault =>
      if fault.isDefect then
        let reason := s!"Invalid pattern {Text.quoted p}: {fault.message p}"
        .ok (.misconfigured head reason, [⟨id, .pattern, .error, reason⟩])
      else .error (.pattern p fault)

/-- The rule of a field that is no repeatable section. -/
def plainRule (id : String) (type : FieldType) (head : RuleHead) (c : Constraints) :
    Outcome (Rule × List Issue) :=
  match type with
  | .text | .textarea => textRule id head c
  | .email => .ok (.string head none none none true, [])
  | .number => .ok (.number head true c.min c.max, [])
  | .select | .radio => .ok (.string head none none none false, [])
  | .multiSelect | .checkbox => .ok (.choiceList head c.min c.max, [])
  | .date => .ok (.date head, [])
  | .file | .image | .attachment => .ok (.any head c.allowedFileTypes c.maxFileSize c.maxFiles, [])
  | .rating => .ok (.number head false none none, [])
  | .matrix => .ok (.matrix head, [])
  | .repeatable => .ok (.repeatable head [], [])

mutual

/-- The rule of a field, with the issues that were found. -/
def compile : Field → Outcome (Rule × List Issue)
  | ⟨id, type, _, required, _, _, _, constraints, _, subFields⟩ => do
    let c := constraints.getD .unconstrained
    let head : RuleHead := ⟨id, type, required, c.customMessage⟩
    if type = .repeatable then
      let (entries, issues) ← compileOpt subFields
      pure (.repeatable head (Members.ofPairs entries), issues)
    else plainRule id type head c

/-- The rules of an optional list of fields. -/
def compileOpt : Option (List Field) → Outcome (List (String × Rule) × List Issue)
  | none => .ok ([], [])
  | some fields => compileList fields

/-- The rules of a list of fields by id. -/
def compileList : List Field → Outcome (List (String × Rule) × List Issue)
  | [] => .ok ([], [])
  | f :: fs => do
    let (rule, issues) ← f.compile
    let (rules, others) ← compileList fs
    pure ((f.id, rule) :: rules, issues ++ others)

end

/-- The issues with the conditions of a top-level field. -/
def conditionIssues (topLevel : List String) (f : Field) : List Issue :=
  f.conditionList.filterMap (fun c =>
    if c.source = f.id then
      some ⟨f.id, .selfReference, .error,
        s!"Field {f.id} has a condition on itself; it will never be visible"⟩
    else if c.source ∉ topLevel then
      some ⟨f.id, .danglingCondition, .warning,
        s!"Condition source {c.source} does not exist; field {f.id} will stay hidden"⟩
    else none) ++
  f.children.filterMap fun s =>
    if s.hasConditions then
      some ⟨s.id, .subFieldCondition, .warning, s!"Conditions on sub-field {s.id} are ignored"⟩
    else none

end Field

namespace Schema

/-- The issues with the conditions of a form. -/
def conditionIssues (s : Schema) : List Issue := s.fields.flatMap (·.conditionIssues s.fieldIds)

/-- The contract of a schema. -/
def compile (s : Schema) : Outcome Contract := do
  let (rules, issues) ← Field.compileList s.fields
  pure ⟨Members.ofPairs rules, issues ++ s.conditionIssues⟩

end Schema
end Questionnaire
