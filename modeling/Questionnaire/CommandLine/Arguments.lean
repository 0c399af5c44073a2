import Questionnaire.CommandLine.Grammar
import Questionnaire.Config
import Questionnaire.Number.Numeral
import Questionnaire.Text.LetterCase

/-!
# Arguments of the program

The program takes two parameters, how much it logs and how it indents, and one of four commands:
`new`, `check`, `visible` and `validate`.  `Arguments.read` finds out what the words ask for.
-/

namespace Questionnaire.CommandLine

/-- What the program is asked to do; a file may be named by no path. -/
inductive Task where
  /-- Print a new form. -/
  | new (title description : Option String) (fieldTypes : List String)
  /-- Look for issues in a form. -/
  | check (schema : Option String)
  /-- List the visible fields for some answers. -/
  | visible (schema values : Option String)
  /-- Validate some answers. -/
  | validate (schema values : Option String)

/-- What the words on the command line ask for. -/
structure Arguments where
  indent : Int
  task : Task

/-! ### Values of parameters -/

/-- The names of the levels of logging. -/
def logLevels : List String :=
  ["CRITICAL", "FATAL", "ERROR", "WARN", "WARNING", "INFO", "DEBUG", "NOTSET"]

/-- What is wrong with a level of logging. -/
def logLevelComplaint (name : String) : Option String :=
  if Text.upper name ∈ logLevels then none else some ("unknown log level: " ++ name)

/-- The number that a text names as an indentation. -/
def indentation? (s : String) : Option Int :=
  match Integer.read s with
  | .value n => some n
  | _ => none

/-- What is wrong with an indentation. -/
def indentationComplaint (s : String) : Option String :=
  if (indentation? s).isSome then none else some ("invalid int value: " ++ Text.quoted s)

/-! ### Grammars -/

/-- The name of the program. -/
def programName : String := "form-builder"

/-- The words before the command. -/
def mainGrammar : Grammar :=
  ⟨programName,
    [⟨"--log-level", "LOG_LEVEL", logLevelComplaint⟩, ⟨"--indent", "INDENT", indentationComplaint⟩],
    .command⟩

/-- Any value of a parameter is fit. -/
def anyValue (_ : String) : Option String := none

/-- The commands with the words that each takes. -/
def commands : List (String × Grammar) :=
  let grammar := fun name parameters operands =>
    (name, (⟨programName ++ " " ++ name, parameters, .named operands⟩ : Grammar))
  [grammar "new" [⟨"--title", "TITLE", anyValue⟩, ⟨"--description", "DESCRIPTION", anyValue⟩,
      ⟨"--field", "TYPE", anyValue⟩] [],
    grammar "check" [] ["schema"],
    grammar "visible" [] ["schema", "values"],
    grammar "validate" [] ["schema", "values"]]

/-! ### Calls -/

namespace Call

/-- The latest value of a parameter. -/
def latest? (call : Call) (name : String) : Option String :=
  (call.settings.reverse.lookup name)

/-- All values of a parameter. -/
def all (call : Call) (name : String) : List String :=
  (call.settings.filter (·.1 = name)).map (·.2)

end Call

/-- The task that a command with its own words asks for. -/
def taskOf (name : String) (call : Call) : Task :=
  let operand := fun n => (call.operands[n]?).join
  match name with
  | "new" => .new (call.latest? "--title") (call.latest? "--description") (call.all "--field")
  | "check" => .check (operand 0)
  | "visible" => .visible (operand 0) (operand 1)
  | _ => .validate (operand 0) (operand 1)

namespace Arguments

/-- Finds the command and what its own words ask for; also what is surplus among them. -/
def readCommand : List String → Except Interruption (Option Task × List String)
  | [] => .ok (none, [])
  | name :: words =>
    match commands.lookup name with
    | none =>
      let known := ", ".intercalate (commands.map fun c => Text.quoted c.1)
      .error (.misused programName
        s!"argument command: invalid choice: {Text.quoted name} (choose from {known})")
    | some grammar => do
      let call ← grammar.parse words
      grammar.checkComplete call
      pure (some (taskOf name call), call.surplus)

/-- Finds out what the words ask for. -/
def read (c : Config) (words : List String) : Except Interruption Arguments := do
  let call ← mainGrammar.parse words
  let (task, surplus) ← readCommand call.command
  if (call.latest? "--log-level").isNone then
    match (c.logLevel.text?).bind logLevelComplaint with
    | some message =>
      throw (.misused programName ("argument --log-level: " ++ message))
    | none => pure ()
  mainGrammar.checkComplete call
  match task, call.surplus ++ surplus with
  | some task, [] =>
    let indent := ((call.latest? "--indent").bind indentation?).getD c.indentation
    pure ⟨indent, task⟩
  | _, words =>
    .error (.misused programName ("unrecognized arguments: " ++ " ".intercalate words))

end Arguments
end Questionnaire.CommandLine
