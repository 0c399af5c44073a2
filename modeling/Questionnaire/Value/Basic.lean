import Questionnaire.Members
import Questionnaire.Number.Binary64

/-!
# Untyped values

`Value` is the data that callers hand in and answers consist of: JSON data, and besides tuples,
sets, bytes, dates, uploaded files, and records that were read before.  The order of the
members of an object is kept.

`missing` stands for an answer that is absent, as opposed to one that is `null`.
-/

namespace Questionnaire

/-- The kinds of records that are read from data. -/
inductive RecordKind where
  | choice
  | constraints
  | condition
  | field
  | settings
  | schema
  | failure
  | report
  | issue
  | contract
  deriving DecidableEq, Repr

/-- The name of a kind of records, as messages show it. -/
def RecordKind.name : RecordKind → String
  | .choice => "FieldOption"
  | .constraints => "FieldValidation"
  | .condition => "Condition"
  | .field => "FormField"
  | .settings => "FormSettings"
  | .schema => "FormSchema"
  | .failure => "FieldValidationError"
  | .report => "ValidationResult"
  | .issue => "CompileIssue"
  | .contract => "ValidationContract"

/-- Untyped data. -/
inductive Value where
  /-- No value at all. -/
  | missing
  | null
  | bool (b : Bool)
  | int (n : Int)
  | float (x : Binary64)
  | str (s : String)
  | list (items : List Value)
  | tuple (items : List Value)
  /-- Distinct items in no particular order. -/
  | set (items : List Value)
  | dict (members : List (String × Value))
  | bytes (data : List UInt8)
  /-- A calendar date, by its text in year-month-day form. -/
  | date (text : String)
  /-- An uploaded file, by its attributes. -/
  | file (attributes : List (String × Value))
  /-- A record that was read before, by its members as exported. -/
  | record (kind : RecordKind) (members : List (String × Value))
  deriving Inhabited

namespace Value

/-- The values of a text that is not empty, and of nothing else that is empty or zero, count as
true. -/
def isTruthy : Value → Bool
  | .missing => true
  | .null => false
  | .bool b => b
  | .int n => n ≠ 0
  | .float x => match x with
    | .finite _ m => m.mant ≠ 0
    | _ => true
  | .str s => s ≠ ""
  | .list items | .tuple items | .set items => !items.isEmpty
  | .dict members => !members.isEmpty
  | .bytes data => !data.isEmpty
  | .date _ | .file _ | .record .. => true

/-- The value of an optional thing, `null` when there is none. -/
def ofOption {α : Type} (f : α → Value) : Option α → Value
  | some a => f a
  | none => .null

/-- A list of texts. -/
def texts (ss : List String) : Value := .list (ss.map .str)

/-- The text, if the value is one. -/
def text? : Value → Option String
  | .str s => some s
  | _ => none

/-- Whether the value is the text. -/
def isText (v : Value) (s : String) : Bool := v.text? = some s

end Value

/-- A bound or a limit: a whole number of any size, or a float. -/
inductive Number where
  | int (n : Int)
  | float (x : Binary64)
  deriving DecidableEq, Inhabited

namespace Number

/-- The number as a value. -/
def toValue : Number → Value
  | .int n => .int n
  | .float x => .float x

/-- The place of the number on the number line. -/
def point? : Number → Option Point
  | .int n => some (.ofInt n)
  | .float x => x.point?

/-- Exact numerical order, false when a side is not a number. -/
def lt (a b : Number) : Bool := Point.below a.point? b.point?

/-- Exact numerical equality, false when a side is not a number. -/
def eq (a b : Number) : Bool := Point.same a.point? b.point?

/-- Zero, of either sign. -/
def isZero (a : Number) : Bool := Point.same a.point? (some (.ofInt 0))

/-- A number of things. -/
def ofNat (n : Nat) : Number := .int n

end Number

/-- The number that a value is; a truth value is none. -/
def Value.number? : Value → Option Number
  | .int n => some (.int n)
  | .float x => some (.float x)
  | _ => none

end Questionnaire
