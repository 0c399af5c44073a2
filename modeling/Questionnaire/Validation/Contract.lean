import Questionnaire.Validation.Checking

/-!
# Contracts

A contract holds the rule of every top-level field, and what was found wrong with the form while the
rules were made.  `Contract.validate` applies the rules of the visible fields to the answers and
reports.
-/

namespace Questionnaire

/-- What can be wrong with a form whose structure is sound. -/
inductive IssueKind where
  | pattern
  | selfReference
  | danglingCondition
  | subFieldCondition
  deriving DecidableEq, Inhabited

namespace IssueKind

/-- All kinds. -/
def all : List IssueKind := [.pattern, .selfReference, .danglingCondition, .subFieldCondition]

/-- The name of a kind. -/
def name : IssueKind → String
  | .pattern => "pattern"
  | .selfReference => "self_reference"
  | .danglingCondition => "dangling_condition"
  | .subFieldCondition => "sub_field_condition"

/-- The kind of a name. -/
def ofName? (s : String) : Option IssueKind := all.find? (·.name = s)

end IssueKind

/-- How much an issue matters. -/
inductive Severity where
  | error
  | warning
  deriving DecidableEq, Inhabited

namespace Severity

/-- The name of a severity. -/
def name : Severity → String
  | .error => "error"
  | .warning => "warning"

/-- The severity of a name. -/
def ofName? (s : String) : Option Severity := [Severity.error, .warning].find? (·.name = s)

end Severity

/-- Something wrong with a field. -/
structure Issue where
  fieldId : String
  kind : IssueKind
  severity : Severity
  message : String
  deriving DecidableEq, Inhabited

/-- The rules of a form and its issues. -/
structure Contract where
  rules : Members Rule
  issues : List Issue
  deriving Inhabited

open Reading

namespace Issue

/-- An issue as an object. -/
def toValue (i : Issue) : Value :=
  .dict [("field_id", .str i.fieldId), ("kind", .str i.kind.name),
    ("severity", .str i.severity.name), ("message", .str i.message)]

/-- Reads an issue from its members. -/
def ofMembers (ms : Members Value) : Reading Issue :=
  Issue.mk <$> requireMember ms "field_id" "field_id" text
    <*> requireMember ms "kind" "kind" (named IssueKind.ofName? .notLiteral)
    <*> memberOr ms "severity" "severity" .error (named Severity.ofName? .notLiteral)
    <*> requireMember ms "message" "message" text

/-- Reads an issue. -/
def read : Value → Reading Issue := ofRecord .issue ofMembers

end Issue

namespace Contract

/-- Reads a contract from its members. -/
def ofMembers (ms : Members Value) : Reading Contract :=
  Contract.mk <$> memberOr ms "rules" "rules" [] (mapping Rule.read)
    <*> memberOr ms "issues" "issues" [] (sequence .notList Issue.read)

/-- Reads a contract. -/
def read : Value → Reading Contract := ofRecord .contract ofMembers

/-- The messages of the issues that are errors, by field. -/
def errors (c : Contract) : Members (List String) :=
  (c.issues.filter (·.severity = .error)).foldl
    (fun ms i => ms.put i.fieldId ((ms.get? i.fieldId).getD [] ++ [i.message])) []

/-- The fields whose constraints are unusable. -/
def misconfigured (c : Contract) : List String :=
  c.rules.filterMap fun (id, rule) => match rule with
    | .misconfigured .. => some id
    | _ => none

/-- The rule of a field. -/
def rule? (c : Contract) (id : String) : Option Rule := c.rules.get? id

/-- The failures of one answer; a field without rule accepts anything. -/
def validateField (c : Contract) (id : String) (v : Value) : Outcome (List Failure) :=
  match c.rule? id with
  | none => .ok []
  | some rule => do pure (← rule.apply "" v).2

/-- The warning about a field that was not checked. -/
def warning? (id : String) : Rule → Option String
  | .misconfigured _ reason =>
    some s!"Field {id} is misconfigured and was not validated: {reason}"
  | _ => none

/-- Cleaned answers, failures and warnings of some fields. -/
structure Findings where
  data : Members Value
  failures : List Failure
  warnings : List String

/-- Applies rules to answers one after the other. -/
def applyRules (answers : Members Value) : List (String × Rule) → Outcome Findings
  | [] => .ok ⟨[], [], []⟩
  | (id, rule) :: rules => do
    let (cleaned, failures) ← rule.apply "" ((answers.get? id).getD .missing)
    let rest ← applyRules answers rules
    pure ⟨(id, cleaned) :: rest.data, failures ++ rest.failures,
      (warning? id rule).toList ++ rest.warnings⟩

/-- Validates answers by the rules of the visible fields, or of all fields. -/
def validate (c : Contract) (answers : Members Value) (visible : Option (List String)) :
    Outcome Report := do
  let rules := c.rules.filter fun r => visible.all (·.contains r.1)
  let found ← applyRules answers rules
  let isValid := found.failures.isEmpty
  pure ⟨isValid, found.failures, if isValid then some found.data else none, found.warnings⟩

/-- Validates answers that a caller hands in. -/
def validateValue (c : Contract) (answers : Value) (visible : Option (List String)) :
    Outcome Report :=
  match answers with
  | .dict ms => c.validate ms visible
  | v =>
    if c.rules.any fun r => visible.all (·.contains r.1) then misuse (.noMember v "get")
    else c.validate [] visible

/-- A contract as an object: its rules in order, its issues, and what follows from them. -/
def toValue (c : Contract) : Value :=
  .dict [("rules", .list (c.rules.map fun r => .list [.str r.1, r.2.toValue])),
    ("issues", .list (c.issues.map (·.toValue))),
    ("compile_errors", .dict (c.errors.map fun m => (m.1, .texts m.2))),
    ("misconfigured", .texts c.misconfigured)]

end Contract
end Questionnaire
