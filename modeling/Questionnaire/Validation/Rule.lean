import Questionnaire.Form.Field
import Questionnaire.Form.Export
import Questionnaire.Reading.Scalar

/-!
# Rules

A rule says which answers a field accepts.  There is one kind of rule for each kind of answer, and
one for a field whose constraints cannot be used; a repeatable section has a rule with the rules of
its sub-fields.
-/

namespace Questionnaire

/-- What all rules know about their field. -/
structure RuleHead where
  fieldId : String
  fieldType : FieldType
  required : Bool
  /-- Replaces the message of every failure. -/
  customMessage : Option String
  deriving DecidableEq, Inhabited

/-- What a field accepts. -/
inductive Rule where
  /-- A text within bounds of length that matches a pattern, or an email address. -/
  | string (head : RuleHead) (minLength maxLength : Option Int) (pattern : Option String)
      (email : Bool)
  /-- A number within bounds, perhaps as a text. -/
  | number (head : RuleHead) (coerce : Bool) (minimum maximum : Option Number)
  /-- A list of texts of a length within bounds. -/
  | choiceList (head : RuleHead) (minItems maxItems : Option Number)
  | date (head : RuleHead)
  /-- Anything; the constraints on files are for others to use. -/
  | any (head : RuleHead) (allowedFileTypes : Option (List String)) (maxFileSize : Option Number)
      (maxFiles : Option Int)
  | matrix (head : RuleHead)
  /-- A list of entries, each an object of answers to sub-fields. -/
  | repeatable (head : RuleHead) (entries : List (String × Rule))
  /-- Anything, since the constraints of the field are unusable. -/
  | misconfigured (head : RuleHead) (reason : String)
  deriving Inhabited

namespace Rule

/-- What the rule knows about its field. -/
def head : Rule → RuleHead
  | .string h .. | .number h .. | .choiceList h .. | .date h | .any h .. | .matrix h
  | .repeatable h _ | .misconfigured h _ => h

/-- The name of the kind of a rule. -/
def kind : Rule → String
  | .string .. => "string"
  | .number .. => "number"
  | .choiceList .. => "choice_list"
  | .date _ => "date"
  | .any .. => "any"
  | .matrix _ => "matrix"
  | .repeatable .. => "repeatable"
  | .misconfigured .. => "misconfigured"

/-! ### Rules as objects -/

/-- What all rules show about their field. -/
def headMembers (h : RuleHead) (kind : String) : Members Value :=
  [("field_id", .str h.fieldId), ("field_type", .str h.fieldType.name),
    ("required", .bool h.required), ("custom_message", .optionalText h.customMessage),
    ("kind", .str kind)]

mutual

/-- A rule as an object. -/
def toValue : Rule → Value
  | .string h minLength maxLength pattern email =>
    .dict (headMembers h "string" ++
      [("min_length", .optionalInt minLength), ("max_length", .optionalInt maxLength),
        ("pattern", .optionalText pattern), ("email", .bool email)])
  | .number h coerce minimum maximum =>
    .dict (headMembers h "number" ++
      [("coerce", .bool coerce), ("minimum", .optionalNumber minimum),
        ("maximum", .optionalNumber maximum)])
  | .choiceList h minItems maxItems =>
    .dict (headMembers h "choice_list" ++
      [("min_items", .optionalNumber minItems), ("max_items", .optionalNumber maxItems)])
  | .date h => .dict (headMembers h "date")
  | .any h allowedFileTypes maxFileSize maxFiles =>
    .dict (headMembers h "any" ++
      [("allowed_file_types", .optionalTexts allowedFileTypes),
        ("max_file_size", .optionalNumber maxFileSize), ("max_files", .optionalInt maxFiles)])
  | .matrix h => .dict (headMembers h "matrix")
  | .repeatable h entries =>
    .dict (headMembers h "repeatable" ++ [("entry_rules", .dict (membersValue entries))])
  | .misconfigured h reason =>
    .dict (headMembers h "misconfigured" ++ [("reason", .str reason)])

/-- Named rules as members. -/
def membersValue : List (String × Rule) → List (String × Value)
  | [] => []
  | (name, r) :: rs => (name, r.toValue) :: membersValue rs

end

/-! ### Reading rules -/

open Reading

/-- Reads what all rules know about their field. -/
def readHead (ms : Members Value) : Reading RuleHead :=
  RuleHead.mk <$> requireMember ms "field_id" "field_id" text
    <*> requireMember ms "field_type" "field_type" (named FieldType.ofName? .notMemberOfEnumeration)
    <*> memberOr ms "required" "required" false truth
    <*> memberOr ms "custom_message" "custom_message" none (optional text)

/-- Reads a member that may be absent or `null`. -/
def readOptional {α : Type} (ms : Members Value) (name : String) (f : Value → Reading α) :
    Reading (Option α) :=
  memberOr ms name name none (optional f)

/-- Reads a rule of a kind from its members; `entries` is what was read as its entry rules. -/
def ofMembers (kind : String) (ms : Members Value) (entries : Reading (List (String × Rule))) :
    Option (Reading Rule) :=
  let head := readHead ms
  match kind with
  | "string" => some (Rule.string <$> head <*> readOptional ms "min_length" integer
      <*> readOptional ms "max_length" integer <*> readOptional ms "pattern" text
      <*> memberOr ms "email" "email" false truth)
  | "number" => some (Rule.number <$> head <*> memberOr ms "coerce" "coerce" true truth
      <*> readOptional ms "minimum" Reading.number <*> readOptional ms "maximum" Reading.number)
  | "choice_list" => some (Rule.choiceList <$> head <*> readOptional ms "min_items" Reading.number
      <*> readOptional ms "max_items" Reading.number)
  | "date" => some (Rule.date <$> head)
  | "any" => some (Rule.any <$> head
      <*> readOptional ms "allowed_file_types" (sequence .notTuple text)
      <*> readOptional ms "max_file_size" Reading.number <*> readOptional ms "max_files" integer)
  | "matrix" => some (Rule.matrix <$> head)
  | "repeatable" => some (Rule.repeatable <$> head <*> entries)
  | "misconfigured" =>
    some (Rule.misconfigured <$> head <*> requireMember ms "reason" "reason" text)
  | _ => none

mutual

/-- Reads a rule by the kind that it names. -/
def read : Value → Reading Rule
  | .dict ms => byKind ms (readEntries ms)
  | _ => misfit .notTaggedRecord

/-- Reads the entry rules among the members of a rule. -/
def readEntries : List (String × Value) → Reading (List (String × Rule))
  | [] => .read []
  | (name, v) :: ms =>
    if name = "entry_rules" then (readNamed v).under (.key "entry_rules") else readEntries ms

/-- Reads an object of rules. -/
def readNamed : Value → Reading (List (String × Rule))
  | .dict ms => readMembers ms
  | _ => misfit .notMapping

/-- Reads the rules of an object one after the other. -/
def readMembers : List (String × Value) → Reading (List (String × Rule))
  | [] => .read []
  | (name, v) :: ms =>
    List.cons <$> (Prod.mk name <$> (read v).under (.key name)) <*> readMembers ms

/-- Reads a rule from its members; the paths below it name its kind. -/
def byKind (ms : Members Value) (entries : Reading (List (String × Rule))) : Reading Rule :=
  match ms.get? "kind" with
  | none => misfit .absentTag
  | some v =>
    match v.text?.bind fun kind => (ofMembers kind ms entries).map (·.under (.key kind)) with
    | some r => r
    | none => misfit .unknownTag

end
end Rule
end Questionnaire
