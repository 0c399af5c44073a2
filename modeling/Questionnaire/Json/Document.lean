import Questionnaire.Config
import Questionnaire.Form.Export
import Questionnaire.Json.Writer

/-!
# Indented documents and reports

A document keeps to ASCII; a negative indentation still puts everything on lines of its own, without
any space before it.  A report may use all scripts, and refuses a negative indentation.  Neither takes
an indentation that is no machine number.

A form is written as the document of its export, and read back from any JSON text.
-/

namespace Questionnaire

namespace Json

/-- An indented document. -/
def document (indent : Int) (v : Value) : Outcome String :=
  if indent < -0x8000000000000000 ∨ 0x8000000000000000 ≤ indent then
    misuse (.indentationTooLarge false)
  else .ok (write .ascii (some indent) v)

/-- An indented report. -/
def report (indent : Int) (v : Value) : Outcome String :=
  if indent < 0 then misuse .negativeIndentation
  else if 0x10000000000000000 ≤ indent then misuse (.indentationTooLarge true)
  else .ok (write .report (some indent) v)

end Json

/-! ### Forms -/

namespace Schema

/-- The document of a form, with the indentation of output if no other is given. -/
def toJson (c : Config) (s : Schema) (indent : Option Int) : Outcome String :=
  Json.document (indent.getD c.indentation) s.exported

/-- Reads a form from a JSON text. -/
def ofJson (c : Config) (text : String) : Outcome Schema :=
  match Json.read text with
  | .ok v => Outcome.ofUnread (c.readSchema v)
  | .error problem => .error (.json problem)

end Schema
end Questionnaire
