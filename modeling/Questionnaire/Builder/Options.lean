import Questionnaire.Builder.NewField
import Questionnaire.Text.LetterCase

/-!
# Options

Options, rows and columns are added with the next number of their kind, relabelled, and removed.  The
value of an option follows from its label.

The options of a field are put in their place as a whole.  That to hand them on as a change of the
field comes to the same is `Builder.updateField_options`.
-/

namespace Questionnaire

/-- The value of an option with a label: in lower case, and with an underscore for every run of
blanks. -/
def Choice.valueOf (label : String) : String :=
  let rec joined (blank : Bool) : List Char → List Char
    | [] => []
    | c :: cs =>
      if Text.isBlank c then (if blank then joined true cs else '_' :: joined true cs)
      else c :: joined false cs
  String.ofList (joined false (Text.lower label).toList)

/-- The value of an option whose label is any value. -/
def Choice.valueOfLabel : Value → Outcome String
  | .str label => .ok (Choice.valueOf label)
  | .bytes _ => misuse .bytesForText
  | v => misuse (.noMember v "lower")

namespace Builder

/-- Puts options in the place of those of a field. -/
def putOptions (s : Store) (place : Place) (options : List Choice) : Outcome Store :=
  s.putAt place { place.field with options := some options }

/-- Adds an option, a row or a column at the end; gives its id. -/
def addNumbered (c : Config) (s : Store) (place : Place) (word title : String) (n : Nat)
    (isColumn : Option Bool) : Drawing (Store × String) := do
  let options := place.field.choices
  let id ← freshId c s.issued (.texts (options.map (·.id)))
  pure (← putOptions s place (options ++ [numbered id word title n isColumn]), id)

/-- Adds an option at the end; gives its id. -/
def addOption (c : Config) (s : Store) (id : Value) : Drawing (Store × String) := do
  let place ← s.schema.locate id
  addNumbered c s place "option" "Option" (place.field.choices.length + 1) none

/-- Adds a row to a matrix; gives its id. -/
def addRow (c : Config) (s : Store) (id : Value) : Drawing (Store × String) := do
  let place ← s.schema.locate id
  if place.field.type ≠ .matrix then throw (.refusal (.notMatrix id))
  addNumbered c s place "row" "Row" (place.field.rows.length + 1) (some false)

/-- Adds a column to a matrix; gives its id. -/
def addColumn (c : Config) (s : Store) (id : Value) : Drawing (Store × String) := do
  let place ← s.schema.locate id
  if place.field.type ≠ .matrix then throw (.refusal (.notMatrix id))
  addNumbered c s place "column" "Column" (place.field.columns.length + 1) (some true)

/-- Gives an option a label, and the value that goes with it. -/
def updateOption (s : Store) (id option label : Value) : Outcome Store := do
  let place ← s.schema.locate id
  let o ← place.field.requireChoice id option
  let value ← Choice.valueOfLabel label
  let label := (label.text?).getD ""
  putOptions s place (place.field.choices.map fun p =>
    if p.id = o.id then { p with label, value } else p)

/-- Removes an option. -/
def removeOption (s : Store) (id option : Value) : Outcome Store := do
  let place ← s.schema.locate id
  let o ← place.field.requireChoice id option
  putOptions s place (place.field.choices.filter (·.id ≠ o.id))

end Builder
end Questionnaire
