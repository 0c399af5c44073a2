import Questionnaire.Builder.Command
import Questionnaire.CommandLine.Arguments
import Questionnaire.CommandLine.Folder
import Questionnaire.Json.Document
import Questionnaire.Session.Basic

/-!
# The program

`Program.run` does what the words on the command line ask for, over the files of a folder.  It prints
forms, issues, visible fields or reports, and ends with `0` when all is well, with `1` when the form or
the answers are invalid, and with `2` when the input cannot be used.
-/

namespace Questionnaire.CommandLine

/-- How a run of the program ends. -/
inductive Ending where
  /-- Help was asked for; how the program is called. -/
  | help (usage : String)
  /-- The words on the command line make no call. -/
  | misused (program message : String)
  /-- The command was done, with a code and what was printed. -/
  | done (code : Nat) (output : String)
  /-- The input could not be used; what is said about it. -/
  | refused (complaint : String)
  /-- Something for which there is no provision. -/
  | broken (fault : Fault)

/-- Why a command cannot be done. -/
inductive Trouble where
  | file (fault : FileFault)
  | fault (fault : Fault)
  /-- A file of answers holds no object. -/
  | notObject (path : String)

/-- A computation of the program. -/
abbrev Attempt (α : Type) := Except Trouble α

namespace Attempt

/-- A computation of the library. -/
def ofOutcome {α : Type} : Outcome α → Attempt α
  | .ok a => .ok a
  | .error f => .error (.fault f)

end Attempt

/-! ### Complaints -/

/-- The number of errors that were found in a record. -/
def errorCount (kind : RecordKind) (misplaced : List Misplaced) : String :=
  let errors := if misplaced.length = 1 then "error" else "errors"
  s!"{misplaced.length} validation {errors} for {kind.name}"

/-- The kind of record that a refusal is about when it could not be read. -/
def unreadKind : Refusal → RecordKind
  | .unreadSettings _ => .settings
  | .unreadCondition .. => .condition
  | .unreadSchema _ | .unreadChange .. => .schema
  | _ => .field

/-- The words for a refusal, with the number of errors in what could not be read. -/
def refusalText (r : Refusal) : String :=
  match r.misplaced? with
  | some misplaced => r.message ++ ": " ++ errorCount (unreadKind r) misplaced
  | none => r.message

/-- What the program says about a fault, if there is provision for it. -/
def faultComplaint? : Fault → Option String
  | .refusal r => some ("Invalid schema: " ++ refusalText r)
  | .json problem => some ("Error: " ++ problem.message)
  | .unread u => some ("Error: " ++ errorCount u.kind u.misplaced)
  | .misuse m => if m.family = .value then some ("Error: " ++ m.message) else none
  | .pattern text fault =>
    match fault with
    | .scriptFlags | .tooManyDigits _ => some ("Error: " ++ fault.message text)
    | _ => none
  | .noFreeId => none

/-- How the program ends in trouble. -/
def Trouble.ending : Trouble → Ending
  | .file f => .refused ("Error: " ++ f.message)
  | .notObject path =>
    .refused (s!"Error: {path} must contain a JSON object of field id to value")
  | .fault f =>
    match faultComplaint? f with
    | some complaint => .refused complaint
    | none => .broken f

/-! ### Input -/

/-- The path of a file, which must be there. -/
def requirePath : Option String → Attempt String
  | some path => .ok path
  | none => .error (.fault (.misuse .notPath))

/-- Reads a file of JSON. -/
def loadJson (folder : Folder) (path : String) : Attempt Value :=
  match folder.read path with
  | .error fault => .error (.file fault)
  | .ok text =>
    match Json.read text with
    | .ok v => .ok v
    | .error problem => .error (.fault (.json problem))

/-- Reads a file of answers. -/
def loadValues (folder : Folder) (path : Option String) : Attempt (Members Value) := do
  let path ← requirePath path
  match ← loadJson folder path with
  | .dict ms => pure ms
  | _ => throw (.notObject path)

/-- Reads a file with a form, which must be sound. -/
def loadSchema (c : Config) (folder : Folder) (path : Option String) : Attempt Schema := do
  let _ ← Attempt.ofOutcome (Store.new c none)
  let path ← requirePath path
  let v ← loadJson folder path
  let store ← Attempt.ofOutcome (Store.importSchema c v)
  pure store.schema

/-! ### Commands -/

/-- Adds new fields of given types. -/
def addFields (c : Config) (s : Store) : List String → Drawing Store
  | [] => pure s
  | type :: types => do
    let (s, _) ← Builder.addField c s (.str type)
    addFields c s types

/-- Changes a text of a form, unless the new one is absent or empty. -/
def changeText (change : Value → Outcome Store) (s : Store) : Option String → Outcome Store
  | none | some "" => .ok s
  | some text => change (.str text)

/-- A new form with the fields that are asked for. -/
def newForm (c : Config) (title description : Option String) (types : List String) :
    Outcome Schema := do
  let s ← Store.new c none
  let s ← changeText s.setTitle s title
  let s ← changeText s.setDescription s description
  let s ← ((addFields c s types).run.run ⟨[], 0⟩).1
  pure s.schema

/-- The line between the parts of a list of issues. -/
def rule : String := String.ofList (List.replicate 60 '=')

/-- The line about an issue. -/
def issueLine (i : Issue) : String :=
  s!"  [{Text.upper i.severity.name}] {i.fieldId}: {i.message}"

/-- The lines about a form and its issues. -/
def checkLines (schema : Schema) (contract : Contract) : List String :=
  [rule, "Schema: " ++ schema.title, rule,
    s!"Fields: {schema.fields.length} top-level, {schema.allFieldIds.length} total"] ++
    (if contract.issues.isEmpty then ["No issues found."] else contract.issues.map issueLine) ++
    [rule]

/-- Lines of text. -/
def printed (lines : List String) : String := String.join (lines.map (· ++ "\n"))

/-- Does a task: the code, and what is printed. -/
def perform (c : Config) (folder : Folder) (indent : Int) : Task → Attempt (Nat × String)
  | .new title description types => do
    let schema ← Attempt.ofOutcome (newForm c title description types)
    let text ← Attempt.ofOutcome (schema.toJson c (some indent))
    pure (0, printed [text])
  | .check path => do
    let schema ← loadSchema c folder path
    let contract ← Attempt.ofOutcome schema.compile
    pure (if contract.errors.isEmpty then 0 else 1, printed (checkLines schema contract))
  | .visible path valuesPath => do
    let schema ← loadSchema c folder path
    let values ← loadValues folder valuesPath
    let capacity ← Attempt.ofOutcome c.capacity
    let evaluator := Evaluator.new schema.fields capacity
    let ids ← Attempt.ofOutcome (evaluator.visibleFields (.dict values)).2
    let text ← Attempt.ofOutcome (Json.document indent (.texts ids))
    pure (0, printed [text])
  | .validate path valuesPath => do
    let schema ← loadSchema c folder path
    let values ← loadValues folder valuesPath
    let session ← Attempt.ofOutcome (Session.new c schema (.dict values))
    let report ← Attempt.ofOutcome session.validate
    let text ← Attempt.ofOutcome (Json.report indent (report.toValue .attributes))
    pure (if report.isValid then 0 else 1, printed [text])

/-- Runs the program. -/
def run (c : Config) (folder : Folder) (words : List String) : Ending :=
  match Arguments.read c words with
  | .error (.help usage) => .help usage
  | .error (.misused program message) => .misused program message
  | .ok arguments =>
    match perform c folder arguments.indent arguments.task with
    | .ok (code, output) => .done code output
    | .error trouble => trouble.ending

end Questionnaire.CommandLine
