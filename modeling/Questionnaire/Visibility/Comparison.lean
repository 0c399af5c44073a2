import Questionnaire.Fault
import Questionnaire.Json.Writer
import Questionnaire.Text.Part
import Questionnaire.Value.Equality

/-!
# Comparing answers

What the operators of visibility conditions mean.  The source is the answer that a condition looks
at, the target the value of the condition.

* `equals` is equality as data, except that a truth value never equals anything else.
* `contains` looks for an equal item in a container and for a part of the text of anything else.
* `greaterThan` and `lessThan` compare both sides as floats; what is no number is neither greater nor
  less than anything.
* `isEmpty` holds of no answer, an empty text and an empty container, but not of an empty object.

The one way to fail here is a whole number beyond the range of floats on a side of an order.
-/

namespace Questionnaire

namespace Value

/-- A value as a float; what is no number has none. -/
def asFloat : Value → Outcome Binary64
  | .int n =>
    match Binary64.ofInt? n with
    | some x => .ok x
    | none => misuse .numberTooLarge
  | .float x => .ok x
  | .str s => .ok ((readFloat? (String.ofList (Text.strip s))).getD (.nan Binary64.literalMark))
  | _ => .ok (.nan Binary64.literalMark)

/-- A value as a text: nothing for no value, JSON for containers.  Whole numbers are written out
whatever their length; `maxDigits` limits only what is read. -/
def asText : Value → String
  | .null => ""
  | .bool b => if b then "true" else "false"
  | .float x =>
    match x.toInt? with
    | some n => showInt n
    | none => FloatLayout.plain.write x
  | v@(.list _) | v@(.tuple _) | v@(.dict _) => Json.write .ascii none v
  | v => v.display

/-- Whether the value is a truth value. -/
def isTruth : Value → Bool
  | .bool _ => true
  | _ => false

/-- The items of a container. -/
def items? : Value → Option (List Value)
  | .list vs | .tuple vs | .set vs => some vs
  | _ => none

end Value

namespace Operator

/-- Equality that tells truth values from numbers. -/
def equalTo (source target : Value) : Bool :=
  source.isTruth == target.isTruth && source.equal target

/-- The source has the target as an item or as a part of its text. -/
def containedIn (source target : Value) : Bool :=
  match source.items? with
  | some vs => vs.any (equalTo · target)
  | none => Text.hasPart target.asText.toList source.asText.toList

/-- There is no answer, or an empty one. -/
def isEmptyAnswer (source : Value) : Bool :=
  match source with
  | .null => true
  | .str s => s = ""
  | .list vs | .tuple vs | .set vs => vs.isEmpty
  | _ => false

/-- Compares a source with a target. -/
def holds (o : Operator) (source target : Value) : Outcome Bool :=
  match o with
  | .equals => .ok (equalTo source target)
  | .notEquals => .ok (!equalTo source target)
  | .contains => .ok (containedIn source target)
  | .notContains => .ok (!containedIn source target)
  | .greaterThan => do
    let x ← source.asFloat
    let y ← target.asFloat
    pure (y.lt x)
  | .lessThan => do
    let x ← source.asFloat
    let y ← target.asFloat
    pure (x.lt y)
  | .isEmpty => .ok (isEmptyAnswer source)
  | .isNotEmpty => .ok (!isEmptyAnswer source)

/-- Compares by the operator of a name; one that does not exist never holds. -/
def holdsNamed (name : Value) (source target : Value) : Outcome Bool :=
  match name.text?.bind ofName? with
  | some o => o.holds source target
  | none => .ok false

end Operator
end Questionnaire
