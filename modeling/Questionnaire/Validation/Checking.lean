import Questionnaire.Fault
import Questionnaire.Number.Shortest
import Questionnaire.Validation.Email
import Questionnaire.Validation.Report
import Questionnaire.Validation.Rule

/-!
# Applying rules

`Rule.apply` applies a rule to an answer.  It gives the answer as cleaned (numbers read from texts,
entries reduced to their sub-fields) and the failures.  No answer, a blank text and an empty
container count as unanswered: they fail a required field and pass any other.

Inside a repeatable section the failures carry a path of the section, the number of the entry and the
sub-field.

The words of a failure write out the limit that was broken.  `maxDigits` limits the digits of whole
numbers that are read, but not of those that are written here.
-/

namespace Questionnaire

/-- Whether a value counts as no answer. -/
def Value.isUnanswered : Value → Bool
  | .missing | .null => true
  | .str s => (Text.strip s).isEmpty
  | .list vs | .tuple vs => vs.isEmpty
  | .dict ms => ms.isEmpty
  | _ => false

/-! ### Broken rules -/

/-- A rule that an answer breaks, before the field is known. -/
structure Breach where
  type : String
  message : String
  expected : Value

/-- The words for a limit: a float without fraction reads as a whole number. -/
def Number.limitText : Number → String
  | .int n => Value.showInt n
  | .float x =>
    match x.toInt? with
    | some n => Value.showInt n
    | none => FloatLayout.plain.write x

namespace Breach

/-- The field is required. -/
def required : Breach := ⟨"required", "This field is required", .null⟩

/-- The answer is of the wrong kind. -/
def kind (message expected : String) : Breach := ⟨"type", message, .str expected⟩

/-- The text is too short. -/
def minLength (n : Int) : Breach :=
  ⟨"min_length", s!"Must be at least {Value.showInt n} characters", .int n⟩

/-- The text is too long. -/
def maxLength (n : Int) : Breach :=
  ⟨"max_length", s!"Must be at most {Value.showInt n} characters", .int n⟩

/-- The text does not match the pattern. -/
def pattern (text : String) : Breach := ⟨"pattern", "Invalid format", .str text⟩

/-- The text is no email address. -/
def email : Breach := ⟨"email", "Invalid email address", .str "email"⟩

/-- The number is too small. -/
def minimum (n : Number) : Breach := ⟨"minimum", s!"Must be at least {n.limitText}", n.toValue⟩

/-- The number is too great. -/
def maximum (n : Number) : Breach := ⟨"maximum", s!"Must be at most {n.limitText}", n.toValue⟩

/-- Too few options are selected. -/
def minItems (n : Number) : Breach :=
  ⟨"min_items", s!"Please select at least {n.limitText} options", n.toValue⟩

/-- Too many options are selected. -/
def maxItems (n : Number) : Breach :=
  ⟨"max_items", s!"Please select at most {n.limitText} options", n.toValue⟩

/-- A breach if a condition holds. -/
def when (broken : Bool) (b : Breach) : List Breach := if broken then [b] else []

end Breach

/-- The failures that breaches at a path amount to: all of them, or with a message of the field's own
the first. -/
def RuleHead.failures (h : RuleHead) (path : String) (breaches : List Breach) (received : Value) :
    List Failure :=
  let received := match received with
    | .missing => .null
    | v => v
  let failure := fun (message : String) (b : Breach) => ⟨path, b.type, message, b.expected, received⟩
  match h.customMessage, breaches with
  | _, [] => []
  | some message, b :: bs =>
    if message = "" then (b :: bs).map fun b => failure b.message b else [failure message b]
  | none, bs => bs.map fun b => failure b.message b

/-! ### Checks of single answers -/

/-- Whether a pattern matches the whole of a text. -/
def matchesPattern (pattern text : String) : Outcome Bool :=
  match Pattern.read pattern with
  | .ok program => .ok (program.matchesAll text)
  | .error fault => .error (.pattern pattern fault)

/-- The rules of a text that an answer breaks. -/
def checkString (minLength maxLength : Option Int) (pattern : Option String) (email : Bool) :
    Value → Outcome (List Breach)
  | .str s => do
    let length : Int := s.length
    let unmatched ← match pattern with
      | some p => (!·) <$> matchesPattern p s
      | none => pure false
    pure ((minLength.map fun n => Breach.when (length < n) (.minLength n)).getD [] ++
      (maxLength.map fun n => Breach.when (n < length) (.maxLength n)).getD [] ++
      Breach.when unmatched (.pattern (pattern.getD "")) ++
      Breach.when (email && !Email.isAddress s) .email)
  | _ => .ok [.kind "Expected text" "string"]

/-- The number that a text writes as a plain decimal numeral: a whole number if it is one and not too
long, and otherwise the nearest float. -/
def numberOfNumeral? (s : String) : Option Number :=
  let text := Text.strip s
  (Numeral.read? text).map fun numeral =>
    match Integer.read (String.ofList text) with
    | .value n => .int n
    | _ => .float numeral.toBinary64

/-- The number that an answer is, or writes if `coerce` is on; it has to be finite. -/
def answerNumber? (coerce : Bool) (v : Value) : Option Number :=
  let number := match v with
    | .str s => if coerce then numberOfNumeral? s else none
    | v => v.number?
  number.filter fun
    | .int _ => true
    | .float x => x.isFinite

/-- Bounds that a number breaks. -/
def checkBounds (lower upper : Option Number) (below above : Number → Breach) (n : Number) :
    List Breach :=
  (lower.map fun l => Breach.when (n.lt l) (below l)).getD [] ++
    (upper.map fun u => Breach.when (u.lt n) (above u)).getD []

/-- The texts that a list consists of, if it consists of texts only. -/
def textList? : Value → Option (List Value)
  | .list vs | .tuple vs => if vs.all (·.text?.isSome) then some vs else none
  | _ => none

/-- Whether a value is a text or a date. -/
def Value.isTextOrDate : Value → Bool
  | .str _ | .date _ => true
  | _ => false

/-- Whether a value is an object of texts. -/
def Value.isTextMap : Value → Bool
  | .dict ms => ms.all (·.2.text?.isSome)
  | _ => false

namespace Rule

/-- The cleaned form of an answer that counts as none. -/
def cleanedEmpty (rule : Rule) (v : Value) : Value :=
  match rule, v with
  | .choiceList .., .list vs | .choiceList .., .tuple vs => .list vs
  | .choiceList .., _ => .list []
  | .matrix _, .dict ms => .dict ms
  | .matrix _, _ => .dict []
  | .repeatable .., .list vs | .repeatable .., .tuple vs => .list vs
  | .repeatable .., _ => .list []
  | .number .., _ => .null
  | _, .missing => .null
  | _, v => v

/-- What an answer that counts as none amounts to. -/
def applyEmpty (rule : Rule) (path : String) (v : Value) : Value × List Failure :=
  if rule.head.required then (.null, rule.head.failures path [.required] v)
  else (rule.cleanedEmpty v, [])

/-- A cleaned answer with the failures that breaches amount to. -/
def judged (rule : Rule) (path : String) (v cleaned : Value) (breaches : List Breach) :
    Value × List Failure :=
  (cleaned, rule.head.failures path breaches v)

/-- Applies a rule without entries to an answer that counts as one. -/
def applyPlain (rule : Rule) (path : String) (v : Value) : Outcome (Value × List Failure) :=
  match rule with
  | .string _ minLength maxLength pattern email => do
    pure (rule.judged path v v (← checkString minLength maxLength pattern email v))
  | .number _ coerce minimum maximum =>
    .ok (match answerNumber? coerce v with
      | none => rule.judged path v v [.kind "Must be a number" "number"]
      | some n => rule.judged path v n.toValue (checkBounds minimum maximum .minimum .maximum n))
  | .choiceList _ minItems maxItems =>
    .ok (match textList? v with
      | none => rule.judged path v v [.kind "Expected a list of selections" "list of strings"]
      | some vs =>
        rule.judged path v (.list vs)
          (checkBounds minItems maxItems .minItems .maxItems (.ofNat vs.length)))
  | .date _ =>
    .ok (rule.judged path v v (Breach.when (!v.isTextOrDate) (.kind "Invalid date" "date")))
  | .matrix _ =>
    .ok (rule.judged path v v
      (Breach.when (!v.isTextMap) (.kind "Invalid selection" "mapping of row to column")))
  | _ => .ok (v, [])

/-- Applies a function to the entries of a section one after the other; an entry that is no object
stays as it is. -/
def applyEntries (h : RuleHead) (path : String)
    (f : String → Members Value → Outcome (Members Value × List Failure)) :
    Nat → List Value → Outcome (List Value × List Failure)
  | _, [] => .ok ([], [])
  | n, v :: vs => do
    let entryPath := s!"{path}.{n}"
    let (cleaned, failures) ← match v with
      | .dict ms => do
        let (cleaned, failures) ← f entryPath ms
        pure (Value.dict cleaned, failures)
      | v => .ok (v, h.failures entryPath [.kind "Invalid entry" "object"] v)
    let (rest, others) ← applyEntries h path f (n + 1) vs
    pure (cleaned :: rest, failures ++ others)

mutual

/-- Applies a rule to an answer.  The failures carry the path, or if it is empty the id of the
field. -/
def apply (path : String) : Rule → Value → Outcome (Value × List Failure)
  | .repeatable h entries, v =>
    let path := if path = "" then h.fieldId else path
    if v.isUnanswered then .ok ((Rule.repeatable h entries).applyEmpty path v)
    else
      match v with
      | .list vs | .tuple vs => do
        let (cleaned, failures) ←
          applyEntries h path (fun entryPath ms => applyNamed entryPath entries ms) 0 vs
        pure (.list cleaned, failures)
      | v => .ok (v, h.failures path [.kind "Expected a list of entries" "list of entries"] v)
  | .misconfigured _ _, v =>
    .ok (match v with
      | .missing => .null
      | v => v, [])
  | rule, v =>
    let path := if path = "" then rule.head.fieldId else path
    if v.isUnanswered then .ok (rule.applyEmpty path v) else rule.applyPlain path v

/-- Applies the rules of sub-fields to the members of an entry. -/
def applyNamed (path : String) :
    List (String × Rule) → Members Value → Outcome (Members Value × List Failure)
  | [], _ => .ok ([], [])
  | (name, rule) :: rules, ms => do
    let (cleaned, failures) ← rule.apply s!"{path}.{name}" ((ms.get? name).getD .missing)
    let (rest, others) ← applyNamed path rules ms
    pure ((name, cleaned) :: rest, failures ++ others)

end

end Rule
end Questionnaire
