import Questionnaire.Form.Reader
import Questionnaire.Pattern.Fault
import Questionnaire.Value.Display

/-!
# Faults

Why a command or an evaluation fails.

`Refusal` is a form that would not be sound, or a mention of a part that the form does not have.  A
refusal knows the field it is about (`Refusal.fieldId`) and, when data could not be read, all that
did not fit (`Refusal.misplaced?`).  `Misuse` is data of a kind with which an operation cannot do
anything.  `Fault` joins them with the faults of single formats.
-/

namespace Questionnaire

/-! ### Refusals -/

/-- Why a form refuses a command. -/
inductive Refusal where
  /-- An id occurs twice. -/
  | duplicateId (id : String)
  /-- An id belonged to a field that is gone. -/
  | retiredId (id : String)
  | selfCondition (id : String)
  | duplicateChoice (id : String)
  | nestedSection (id : String)
  /-- A field that is no repeatable section has sub-fields. -/
  | strayChildren (id : String) (type : FieldType)
  | unknownMember (kind : RecordKind) (name : Value)
  /-- A field cannot be read; its id as far as there is one. -/
  | unreadField (id : Value) (misplaced : List Misplaced)
  | unreadSchema (misplaced : List Misplaced)
  | unreadSettings (misplaced : List Misplaced)
  /-- A change of the title or the description cannot be read. -/
  | unreadChange (command : String) (misplaced : List Misplaced)
  | unreadUpdate (id : Value) (misplaced : List Misplaced)
  | unreadChildUpdate (id : Value) (misplaced : List Misplaced)
  | unreadCondition (id : Value) (misplaced : List Misplaced)
  | noField (id : Value)
  | noChild (id : Value)
  | noChoice (id field : Value)
  | notPermutation
  | notSection (id : Value)
  | notMatrix (id : Value)
  /-- Conditions are for top-level fields only. -/
  | conditionBelowTop (id : Value)
  | conditionOnChild (id : Value)
  | sectionInSection (id : Value)
  | noOtherField (id : Value)
  | noCondition (id index : Value)

namespace Refusal

/-- The families of refusals that callers tell apart. -/
inductive Family where
  | integrity
  | duplicate
  | noField
  | noChoice
  | order
  | selfReference
  | nesting
  deriving DecidableEq

/-- The family of a refusal. -/
def family : Refusal → Family
  | .duplicateId _ | .retiredId _ => .duplicate
  | .selfCondition _ => .selfReference
  | .nestedSection _ | .strayChildren .. | .notSection _ | .conditionBelowTop _
  | .conditionOnChild _ | .sectionInSection _ => .nesting
  | .noField _ | .noChild _ => .noField
  | .noChoice .. => .noChoice
  | .notPermutation => .order
  | _ => .integrity

/-- The id of the field that a refusal is about. -/
def fieldId : Refusal → Value
  | .duplicateId id | .retiredId id | .selfCondition id | .duplicateChoice id | .nestedSection id
  | .strayChildren id _ => .str id
  | .unknownMember .. | .unreadSchema _ | .unreadSettings _ | .unreadChange .. | .notPermutation =>
    .null
  | .unreadField id _ | .unreadUpdate id _ | .unreadChildUpdate id _ | .unreadCondition id _
  | .noField id | .noChild id | .noChoice _ id | .notSection id | .notMatrix id
  | .conditionBelowTop id | .conditionOnChild id | .sectionInSection id | .noOtherField id
  | .noCondition id _ => id

/-- All that did not fit, when data could not be read. -/
def misplaced? : Refusal → Option (List Misplaced)
  | .unreadField _ ms | .unreadSchema ms | .unreadSettings ms | .unreadChange _ ms
  | .unreadUpdate _ ms | .unreadChildUpdate _ ms | .unreadCondition _ ms => some ms
  | _ => none

/-- The words for a refusal. -/
def message : Refusal → String
  | .duplicateId id => "Duplicate field id: " ++ id
  | .retiredId id => s!"Field id {id} belonged to a deleted field and cannot be reused"
  | .selfCondition id => s!"Field {id} has a condition on itself"
  | .duplicateChoice id => s!"Duplicate option id in field {id}"
  | .nestedSection id => s!"Repeatable section {id} cannot be nested"
  | .strayChildren id type => s!"Field {id} of type {type.name} cannot have sub-fields"
  | .unknownMember kind name => s!"Unknown {kind.name} key: {name.quoted}"
  | .unreadField .. => "Invalid field definition"
  | .unreadSchema _ => "Invalid schema"
  | .unreadSettings _ => "Invalid settings"
  | .unreadChange command _ => "Invalid " ++ command
  | .unreadUpdate id _ => "Invalid update for field " ++ id.display
  | .unreadChildUpdate id _ => "Invalid update for sub-field " ++ id.display
  | .unreadCondition id _ => "Invalid condition for field " ++ id.display
  | .noField id => "Field not found: " ++ id.display
  | .noChild id => "Sub-field not found: " ++ id.display
  | .noChoice id field => s!"Option {id.display} not found on field {field.display}"
  | .notPermutation => "Reordered fields must be a permutation of the existing fields"
  | .notSection id => s!"Field {id.display} is not a repeatable section"
  | .notMatrix id => s!"Field {id.display} is not a matrix"
  | .conditionBelowTop _ => "Conditions can only be attached to top-level fields"
  | .conditionOnChild _ => "Sub-fields cannot carry conditions"
  | .sectionInSection _ => "Repeatable sections cannot be nested"
  | .noOtherField _ => "No other field is available as a condition source"
  | .noCondition id index => s!"Field {id.display} has no condition at index {index.display}"

end Refusal

/-! ### Misuse -/

/-- Data with which an operation cannot do anything. -/
inductive Misuse where
  /-- A value has no member of a name. -/
  | noMember (value : Value) (name : String)
  | notIterable (value : Value)
  /-- A value cannot be searched for an item. -/
  | notSearchable (value : Value)
  | noLength (value : Value)
  | noPosition (value : Value)
  | noInteger (value : Value)
  /-- Two values cannot be compared by an order. -/
  | noOrder (order : String) (left right : Value)
  | notHashable (value : Value)
  | notFreezable (value : Value)
  /-- Data of a kind that no value has. -/
  | notFreezableKind (kind : String)
  /-- The names in an object that is to be frozen are not all texts. -/
  | notTextNames
  /-- A part that should be a pair has another length. -/
  | pairLength (index length : Nat)
  /-- A part that should be a pair is no sequence. -/
  | notPair (index : Nat)
  | positionOutOfRange (assignment : Bool)
  | positionTooLarge
  | notSliceable
  /-- Bytes stand where a text is searched. -/
  | bytesForText
  /-- Bytes are searched for a text. -/
  | textInBytes
  | numberTooLarge
  | notFieldType (value : Value)
  | notInteger (text : String)
  | integerTooLong (digits : Nat)
  | negativeIndentation
  /-- An indentation is too large for a document, or for a report. -/
  | indentationTooLarge (report : Bool)
  /-- A file is named by no path. -/
  | notPath

namespace Misuse

/-- The families of misuse that callers tell apart. -/
inductive Family where
  | attribute
  | type
  | value
  | index
  | overflow
  deriving DecidableEq

/-- The family of a misuse. -/
def family : Misuse → Family
  | .noMember .. => .attribute
  | .notIterable _ | .notSearchable _ | .noLength _ | .noPosition _ | .noInteger _ | .noOrder ..
  | .notHashable _ | .notFreezable _ | .notFreezableKind _ | .notTextNames | .notPair _
  | .notSliceable | .bytesForText | .textInBytes | .notPath => .type
  | .pairLength .. | .notFieldType _ | .notInteger _ | .integerTooLong _ => .value
  | .positionOutOfRange _ | .positionTooLarge => .index
  | .numberTooLarge | .negativeIndentation | .indentationTooLarge _ => .overflow

/-- The words for a misuse. -/
def message : Misuse → String
  | .noMember v name => s!"'{v.qualifiedKind}' object has no attribute '{name}'"
  | .notIterable v => s!"'{v.qualifiedKind}' object is not iterable"
  | .notSearchable v => s!"argument of type '{v.qualifiedKind}' is not iterable"
  | .noLength v => s!"object of type '{v.qualifiedKind}' has no len()"
  | .noPosition v => "list indices must be integers or slices, not " ++ v.qualifiedKind
  | .noInteger v => s!"'{v.qualifiedKind}' object cannot be interpreted as an integer"
  | .noOrder order left right =>
    s!"'{order}' not supported between instances of '{left.qualifiedKind}' and '{right.qualifiedKind}'"
  | .notHashable v => s!"unhashable type: '{v.qualifiedKind}'"
  | .notFreezable v => "Cannot freeze value of type " ++ v.kind
  | .notFreezableKind kind => "Cannot freeze value of type " ++ kind
  | .notTextNames => "Only string keys can be frozen"
  | .pairLength index length =>
    s!"dictionary update sequence element #{index} has length {length}; 2 is required"
  | .notPair index =>
    s!"cannot convert dictionary update sequence element #{index} to a sequence"
  | .positionOutOfRange assignment =>
    if assignment then "list assignment index out of range" else "list index out of range"
  | .positionTooLarge => "cannot fit 'int' into an index-sized integer"
  | .notSliceable => "slice indices must be integers or None or have an __index__ method"
  | .bytesForText => "cannot use a string pattern on a bytes-like object"
  | .textInBytes => "a bytes-like object is required, not 'str'"
  | .numberTooLarge => "int too large to convert to float"
  | .notFieldType v => v.quoted ++ " is not a valid FieldType"
  | .notInteger text => "invalid literal for int() with base 10: " ++ Text.quoted text
  | .integerTooLong digits => Json.tooManyDigitsMessage digits
  | .negativeIndentation => "can't convert negative int to unsigned"
  | .indentationTooLarge report =>
    if report then "int too big to convert" else "cannot fit 'int' into an index-sized integer"
  | .notPath => "expected str, bytes or os.PathLike object, not list"

end Misuse

/-! ### All faults -/

/-- Why something fails. -/
inductive Fault where
  | refusal (r : Refusal)
  | misuse (m : Misuse)
  /-- A record could not be read. -/
  | unread (u : Unread)
  /-- A text is no pattern. -/
  | pattern (text : String) (fault : Pattern.Fault)
  /-- A text is not JSON. -/
  | json (problem : Json.Problem)
  /-- No free id was found among those that were drawn. -/
  | noFreeId

namespace Fault

/-- The words for a fault. -/
def message : Fault → String
  | .refusal r => r.message
  | .misuse m => m.message
  | .unread u => "Cannot read " ++ u.kind.name
  | .pattern text fault => fault.message text
  | .json problem => problem.message
  | .noFreeId => "No free id"

end Fault

/-- What may fail. -/
abbrev Outcome (α : Type) := Except Fault α

/-- Fails by a refusal. -/
def refuse {α : Type} (r : Refusal) : Outcome α := .error (.refusal r)

/-- Fails by a misuse. -/
def misuse {α : Type} (m : Misuse) : Outcome α := .error (.misuse m)

/-- What was read, or the fault that it could not be. -/
def Outcome.ofUnread {α : Type} : Except Unread α → Outcome α
  | .ok a => .ok a
  | .error u => .error (.unread u)

end Questionnaire
